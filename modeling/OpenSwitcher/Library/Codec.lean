import Mathlib.Data.List.Basic
import Mathlib.Data.UInt
import OpenSwitcher.Library.Fallible
/-!
# Codecs as fallible programs

A writer appends bytes to a buffer of bounded size, a reader consumes a prefix of
what remains. A reader is specified by the pairs of a value and the bytes it reads as
that value, so that one statement gives both directions of a round trip.
-/

namespace OpenSwitcher.Library

open Fallible

/-! ## Big-endian words -/

/-- The low `width` bytes of a number, the most significant first. -/
def beBytes : Nat → Nat → List UInt8
  | 0, _ => []
  | width + 1, value => beBytes width (value / 256) ++ [UInt8.ofNat value]

def ofBeBytes (bytes : List UInt8) : Nat :=
  bytes.foldl (fun value byte => value * 256 + byte.toNat) 0

@[simp] theorem length_beBytes (width value : Nat) : (beBytes width value).length = width := by
  induction width generalizing value with
  | zero => rfl
  | succ width ih => simp [beBytes, ih]

theorem ofBeBytes_append (bytes : List UInt8) (byte : UInt8) :
    ofBeBytes (bytes ++ [byte]) = ofBeBytes bytes * 256 + byte.toNat := by
  simp [ofBeBytes]

theorem ofBeBytes_beBytes {width value : Nat} (h : value < 256 ^ width) :
    ofBeBytes (beBytes width value) = value := by
  induction width generalizing value with
  | zero =>
      have hzero : value = 0 := by
        simpa using h
      rw [hzero]
      rfl
  | succ width ih =>
      have hdiv : value / 256 < 256 ^ width := by
        rw [Nat.div_lt_iff_lt_mul (by omega)]
        calc
          value < 256 ^ (width + 1) := h
          _ = 256 ^ width * 256 := by rw [Nat.pow_succ]
      have hbyte : (UInt8.ofNat value).toNat = value % 256 := by simp
      rw [beBytes, ofBeBytes_append, ih hdiv, hbyte]
      omega

theorem beBytes_ofBeBytes (bytes : List UInt8) :
    beBytes bytes.length (ofBeBytes bytes) = bytes := by
  induction bytes using List.reverseRecOn with
  | nil => rfl
  | append_singleton bytes byte ih =>
      have hlt := byte.toNat_lt
      have hdiv : (ofBeBytes bytes * 256 + byte.toNat) / 256 = ofBeBytes bytes := by omega
      have hbyte : UInt8.ofNat (ofBeBytes bytes * 256 + byte.toNat) = byte := by
        apply UInt8.toNat_inj.mp
        rw [UInt8.toNat_ofNat']
        omega
      rw [List.length_append, List.length_singleton, beBytes, ofBeBytes_append, hdiv, ih, hbyte]

theorem ofBeBytes_lt (bytes : List UInt8) : ofBeBytes bytes < 256 ^ bytes.length := by
  induction bytes using List.reverseRecOn with
  | nil => simp [ofBeBytes]
  | append_singleton bytes byte ih =>
      have hlt := byte.toNat_lt
      rw [ofBeBytes_append, List.length_append, List.length_singleton, Nat.pow_succ]
      omega

/-! ## Writers -/

/-- The program appends `bytes` and answers `a`, wherever they fit. -/
def Writes {β ε α : Type} (limit : Nat) (program : Fallible (List β) ε α) (a : α)
    (bytes : List β) : Prop :=
  ∀ buffer, buffer.length + bytes.length ≤ limit →
    outcome program buffer = (.ok a, buffer ++ bytes)

namespace Writes

variable {β ε α γ : Type} {limit : Nat}

theorem pure (a : α) : Writes limit (pure a : Fallible (List β) ε α) a [] := by
  intro buffer _
  rw [List.append_nil]
  rfl

theorem bind {program : Fallible (List β) ε α} {rest : α → Fallible (List β) ε γ} {a : α} {c : γ}
    {first second : List β} (h : Writes limit program a first)
    (h' : Writes limit (rest a) c second) :
    Writes limit (program >>= rest) c (first ++ second) := by
  intro buffer hfits
  rw [List.length_append] at hfits
  have hfirst := h buffer (by omega)
  have hsecond := h' (buffer ++ first) (by rw [List.length_append]; omega)
  rw [outcome_bind, hfirst]
  simp only [hsecond, List.append_assoc]

end Writes

/-- A writer followed by its answer. -/
theorem Writes.answer {β ε γ : Type} {limit : Nat} {program : Fallible (List β) ε Unit}
    {bytes : List β} (h : Writes limit program () bytes) (c : γ) :
    Writes limit (program >>= fun _ => Pure.pure c) c bytes := by
  have hbind : Writes limit (program >>= fun _ => Pure.pure c) c (bytes ++ []) :=
    h.bind (Writes.pure c)
  rwa [List.append_nil] at hbind

/-! ## Readers -/

/-- The reader accepts exactly the values and bytes that `form` pairs. The state keeps
`valid` and shows what it has not consumed as `rest`. -/
structure Reads {σ β ε α : Type} (valid : σ → Prop) (rest : σ → List β)
    (program : Fallible σ ε α) (form : α → List β → Prop) : Prop where
  complete : ∀ s a bytes after, valid s → form a bytes → rest s = bytes ++ after →
    ∃ s', outcome program s = (.ok a, s') ∧ valid s' ∧ rest s' = after
  sound : ∀ s a s', valid s → outcome program s = (.ok a, s') →
    valid s' ∧ ∃ bytes, form a bytes ∧ rest s = bytes ++ rest s'

namespace Reads

variable {σ β ε α γ : Type} {valid : σ → Prop} {rest : σ → List β}

theorem congr {program : Fallible σ ε α} {form form' : α → List β → Prop}
    (h : Reads valid rest program form) (hform : ∀ a bytes, form a bytes ↔ form' a bytes) :
    Reads valid rest program form' := by
  have heq : form = form' := by
    funext a bytes
    exact propext (hform a bytes)
  rw [← heq]
  exact h

theorem pure (a : α) : Reads valid rest (pure a : Fallible σ ε α)
    fun c bytes => c = a ∧ bytes = [] := by
  constructor
  · intro s c bytes after hvalid hform hrest
    obtain ⟨hc, hbytes⟩ := hform
    subst hc
    subst hbytes
    exact ⟨s, rfl, hvalid, hrest⟩
  · intro s c s' hvalid hrun
    cases hrun
    exact ⟨hvalid, [], ⟨rfl, rfl⟩, rfl⟩

theorem throw (error : ε) : Reads valid rest (throw error : Fallible σ ε α)
    fun _ _ => False := by
  constructor
  · intro s a bytes after _ hform
    cases hform
  · intro s a s' _ hrun
    cases hrun

theorem bind {program : Fallible σ ε α} {next : α → Fallible σ ε γ}
    {form : α → List β → Prop} {form' : α → γ → List β → Prop}
    (h : Reads valid rest program form) (h' : ∀ a, Reads valid rest (next a) (form' a)) :
    Reads valid rest (program >>= next) fun c bytes =>
      ∃ a first second, form a first ∧ form' a c second ∧ bytes = first ++ second := by
  constructor
  · intro s c bytes after hvalid hform hrest
    obtain ⟨a, first, second, hfirst, hsecond, hbytes⟩ := hform
    rw [hbytes, List.append_assoc] at hrest
    obtain ⟨s', hrun, hvalid', hrest'⟩ := h.complete s a first _ hvalid hfirst hrest
    obtain ⟨s'', hrun', hvalid'', hrest''⟩ := (h' a).complete s' c second _ hvalid' hsecond hrest'
    refine ⟨s'', ?_, hvalid'', hrest''⟩
    rw [outcome_bind, hrun]
    exact hrun'
  · intro s c s'' hvalid hrun
    rw [outcome_bind] at hrun
    cases hfirst : outcome program s with
    | mk answer s' =>
        rw [hfirst] at hrun
        cases answer with
        | error error => cases hrun
        | ok a =>
            obtain ⟨hvalid', first, hform, hrest⟩ := h.sound s a s' hvalid hfirst
            obtain ⟨hvalid'', second, hform', hrest'⟩ := (h' a).sound s' c s'' hvalid' hrun
            refine ⟨hvalid'', first ++ second, ⟨a, first, second, hform, hform', rfl⟩, ?_⟩
            rw [hrest, hrest', List.append_assoc]

/-- Two readers of one field each, one after the other. -/
theorem field {program : Fallible σ ε α} {next : α → Fallible σ ε γ} {wire : α → List β}
    {form' : α → γ → List β → Prop} (h : Reads valid rest program fun a bytes => bytes = wire a)
    (h' : ∀ a, Reads valid rest (next a) (form' a)) :
    Reads valid rest (program >>= next) fun c bytes =>
      ∃ a second, form' a c second ∧ bytes = wire a ++ second := by
  apply (h.bind h').congr
  intro c bytes
  constructor
  · intro hform
    obtain ⟨a, first, second, hfirst, hsecond, hbytes⟩ := hform
    exact ⟨a, second, hsecond, by rw [hbytes, hfirst]⟩
  · intro hform
    obtain ⟨a, second, hsecond, hbytes⟩ := hform
    exact ⟨a, wire a, second, rfl, hsecond, hbytes⟩

theorem guard {p : Prop} [Decidable p] {program : Fallible σ ε α}
    {form : α → List β → Prop} (error : ε) (h : Reads valid rest program form) :
    Reads valid rest (if p then MonadExcept.throw error else program)
      fun a bytes => ¬ p ∧ form a bytes := by
  by_cases hcondition : p
  · rw [if_pos hcondition]
    apply (throw error).congr
    intro a bytes
    exact ⟨False.elim, fun hform => hform.1 hcondition⟩
  · rw [if_neg hcondition]
    apply h.congr
    intro a bytes
    exact ⟨fun hform => ⟨hcondition, hform⟩, And.right⟩

theorem cond {p : Prop} [Decidable p] {program program' : Fallible σ ε α}
    {form form' : α → List β → Prop} (h : Reads valid rest program form)
    (h' : Reads valid rest program' form') :
    Reads valid rest (if p then program else program')
      fun a bytes => (p ∧ form a bytes) ∨ (¬ p ∧ form' a bytes) := by
  by_cases hcondition : p
  · rw [if_pos hcondition]
    apply h.congr
    intro a bytes
    simp [hcondition]
  · rw [if_neg hcondition]
    apply h'.congr
    intro a bytes
    simp [hcondition]

section Records

variable {ι κ δ : Type} {first : Fallible σ ε α} {second : Fallible σ ε ι}
  {third : Fallible σ ε κ} {fourth : Fallible σ ε δ}
  {wire₁ : α → List β} {wire₂ : ι → List β} {wire₃ : κ → List β} {wire₄ : δ → List β}

theorem record₁ (h₁ : Reads valid rest first fun a bytes => bytes = wire₁ a) (make : α → γ) :
    Reads valid rest (do let a ← first; Pure.pure (make a))
      fun c bytes => ∃ a, c = make a ∧ bytes = wire₁ a := by
  apply (h₁.field fun a => pure (make a)).congr
  intro c bytes
  simp [and_comm]

theorem record₂ (h₁ : Reads valid rest first fun a bytes => bytes = wire₁ a)
    (h₂ : Reads valid rest second fun i bytes => bytes = wire₂ i) (make : α → ι → γ) :
    Reads valid rest (do let a ← first; let i ← second; Pure.pure (make a i))
      fun c bytes => ∃ a i, c = make a i ∧ bytes = wire₁ a ++ wire₂ i := by
  apply (h₁.field fun a => h₂.record₁ (make a)).congr
  intro c bytes
  constructor
  · intro hform
    obtain ⟨a, tail, ⟨i, hc, htail⟩, hbytes⟩ := hform
    exact ⟨a, i, hc, by rw [hbytes, htail]⟩
  · intro hform
    obtain ⟨a, i, hc, hbytes⟩ := hform
    exact ⟨a, wire₂ i, ⟨i, hc, rfl⟩, hbytes⟩

theorem record₃ (h₁ : Reads valid rest first fun a bytes => bytes = wire₁ a)
    (h₂ : Reads valid rest second fun i bytes => bytes = wire₂ i)
    (h₃ : Reads valid rest third fun k bytes => bytes = wire₃ k) (make : α → ι → κ → γ) :
    Reads valid rest (do let a ← first; let i ← second; let k ← third; Pure.pure (make a i k))
      fun c bytes => ∃ a i k, c = make a i k ∧ bytes = wire₁ a ++ (wire₂ i ++ wire₃ k) := by
  apply (h₁.field fun a => h₂.record₂ h₃ (make a)).congr
  intro c bytes
  constructor
  · intro hform
    obtain ⟨a, tail, ⟨i, k, hc, htail⟩, hbytes⟩ := hform
    exact ⟨a, i, k, hc, by rw [hbytes, htail]⟩
  · intro hform
    obtain ⟨a, i, k, hc, hbytes⟩ := hform
    exact ⟨a, _, ⟨i, k, hc, rfl⟩, hbytes⟩

theorem record₄ (h₁ : Reads valid rest first fun a bytes => bytes = wire₁ a)
    (h₂ : Reads valid rest second fun i bytes => bytes = wire₂ i)
    (h₃ : Reads valid rest third fun k bytes => bytes = wire₃ k)
    (h₄ : Reads valid rest fourth fun d bytes => bytes = wire₄ d) (make : α → ι → κ → δ → γ) :
    Reads valid rest
      (do let a ← first; let i ← second; let k ← third; let d ← fourth; Pure.pure (make a i k d))
      fun c bytes => ∃ a i k d, c = make a i k d ∧
        bytes = wire₁ a ++ (wire₂ i ++ (wire₃ k ++ wire₄ d)) := by
  apply (h₁.field fun a => h₂.record₃ h₃ h₄ (make a)).congr
  intro c bytes
  constructor
  · intro hform
    obtain ⟨a, tail, ⟨i, k, d, hc, htail⟩, hbytes⟩ := hform
    exact ⟨a, i, k, d, hc, by rw [hbytes, htail]⟩
  · intro hform
    obtain ⟨a, i, k, d, hc, hbytes⟩ := hform
    exact ⟨a, _, ⟨i, k, d, hc, rfl⟩, hbytes⟩

end Records

/-- A reader whose value is renamed: `wire` must be the bytes of the renamed value. -/
theorem map {program : Fallible σ ε α} {f : α → γ} {wire : α → List β} {wire' : γ → List β}
    (h : Reads valid rest program fun a bytes => bytes = wire a)
    (hwire : ∀ a, wire' (f a) = wire a) (hsurjective : ∀ c, ∃ a, f a = c) :
    Reads valid rest (f <$> program) fun c bytes => bytes = wire' c := by
  have hmap : f <$> program = program >>= fun a => Pure.pure (f a) := rfl
  rw [hmap]
  apply (h.field fun a => pure (f a)).congr
  intro c bytes
  constructor
  · intro hform
    obtain ⟨a, second, ⟨hc, hsecond⟩, hbytes⟩ := hform
    rw [hbytes, hsecond, hc, hwire, List.append_nil]
  · intro hbytes
    obtain ⟨a, ha⟩ := hsurjective c
    refine ⟨a, [], ⟨ha.symm, rfl⟩, ?_⟩
    rw [hbytes, ← ha, hwire, List.append_nil]

end Reads

end OpenSwitcher.Library
