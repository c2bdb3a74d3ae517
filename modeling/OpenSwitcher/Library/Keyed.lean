import Mathlib.Data.List.Nodup
/-!
# Lists with distinct keys

An update or removal of the first entry with a key touches every entry with that
key, because there is only one.
-/

namespace OpenSwitcher.Library

namespace Keyed

variable {α κ : Type} [DecidableEq κ] (key : α → κ) {k : κ} {l : List α}

/-- Rewriting the first entry with a key is rewriting the entries with it. -/
theorem replaceF_eq_map (f : α → α) (h : (l.map key).Nodup) :
    (l.replaceF fun a => if key a = k then some (f a) else none) =
      l.map fun a => if key a = k then f a else a := by
  induction l with
  | nil => rfl
  | cons a l ih =>
      rw [List.map_cons, List.nodup_cons] at h
      by_cases hk : key a = k
      · have hsome : (if key a = k then some (f a) else none) = some (f a) := if_pos hk
        rw [List.replaceF_cons_of_some _ hsome, List.map_cons, if_pos hk]
        congr 1
        symm
        refine (List.map_congr_left fun b hb => if_neg fun hb' => h.1 ?_).trans (List.map_id' l)
        rw [hk, ← hb']
        exact List.mem_map_of_mem hb
      · have hnone : (if key a = k then some (f a) else none) = none := if_neg hk
        rw [List.replaceF_cons_of_none _ hnone, List.map_cons, if_neg hk, ih h.2]

/-- Removing the first entry with a key is removing the entries with it. -/
theorem eraseP_eq_filter (h : (l.map key).Nodup) :
    l.eraseP (key · == k) = l.filter (key · != k) := by
  induction l with
  | nil => rfl
  | cons a l ih =>
      rw [List.map_cons, List.nodup_cons] at h
      by_cases hk : key a = k
      · rw [List.eraseP_cons_of_pos (by simpa using hk), List.filter_cons_of_neg (by simpa using hk)]
        refine (List.filter_eq_self.2 fun b hb => ?_).symm
        rw [bne_iff_ne]
        rintro rfl
        exact h.1 (hk ▸ List.mem_map_of_mem hb)
      · rw [List.eraseP_cons_of_neg (by simpa using hk), List.filter_cons_of_pos (by simpa using hk),
          ih h.2]

/-- A further test that the only entry with a key passes changes nothing. -/
theorem eraseP_and_eq_filter {a : α} {test : α → Bool} (h : (l.map key).Nodup) (ha : a ∈ l)
    (htest : test a = true) :
    l.eraseP (fun b => key b == key a && test b) = l.filter (key · != key a) := by
  rw [← eraseP_eq_filter key h]
  have hagree : ∀ b ∈ l, (key b == key a && test b) = (key b == key a) := by
    intro b hb
    by_cases hk : key b = key a
    · rw [List.inj_on_of_nodup_map h hb ha hk, htest, Bool.and_true]
    · simp [hk]
  clear h ha
  induction l with
  | nil => rfl
  | cons b l ih =>
      rw [List.eraseP_cons, List.eraseP_cons, hagree b List.mem_cons_self,
        ih fun c hc => hagree c (List.mem_cons_of_mem _ hc)]

/-- With distinct keys, an entry found by its key is the one with that key. -/
theorem find?_eq_of_mem {a : α} (h : (l.map key).Nodup) (ha : a ∈ l) :
    l.find? (key · == key a) = some a := by
  induction l with
  | nil => cases ha
  | cons b l ih =>
      rw [List.map_cons, List.nodup_cons] at h
      rcases List.mem_cons.1 ha with rfl | ha
      · simp
      · have hne : key b ≠ key a := fun heq => h.1 (heq ▸ List.mem_map_of_mem ha)
        rw [List.find?_cons_of_neg (by simpa using hne)]
        exact ih h.2 ha

/-- Rewriting the first entry that passes a test changes no other. -/
theorem mem_replaceF_of_find? {α : Type} {test : α → Prop} [DecidablePred test] {f : α → α}
    {l : List α} {a b : α} (ha : l.find? (fun c => decide (test c)) = some a)
    (hb : b ∈ l.replaceF fun c => if test c then some (f c) else none) : b ∈ l ∨ b = f a := by
  induction l with
  | nil => cases ha
  | cons c l ih =>
      by_cases hc : test c
      · have hsome : (if test c then some (f c) else none) = some (f c) := if_pos hc
        rw [List.find?_cons_of_pos (by simpa using hc)] at ha
        rw [List.replaceF_cons_of_some _ hsome] at hb
        cases ha
        rcases List.mem_cons.1 hb with hb | hb
        · exact Or.inr hb
        · exact Or.inl (List.mem_cons_of_mem _ hb)
      · have hnone : (if test c then some (f c) else none) = none := if_neg hc
        rw [List.find?_cons_of_neg (by simpa using hc)] at ha
        rw [List.replaceF_cons_of_none _ hnone] at hb
        rcases List.mem_cons.1 hb with hb | hb
        · exact Or.inl (hb ▸ List.mem_cons_self)
        · rcases ih ha hb with hb | hb
          · exact Or.inl (List.mem_cons_of_mem _ hb)
          · exact Or.inr hb

/-- Rewriting an entry without touching its key leaves the keys as they are. -/
theorem map_key_replaceF {f : α → α} (hf : ∀ a, key (f a) = key a) :
    (l.replaceF fun a => if key a = k then some (f a) else none).map key = l.map key := by
  induction l with
  | nil => rfl
  | cons a l ih =>
      by_cases hk : key a = k
      · simp [List.replaceF, hk, hf]
      · simp [List.replaceF, hk, ih]

/-- Looking up a key after the first entry of another, or the same, was rewritten. -/
theorem find?_replaceF {f : α → α} (hf : ∀ a, key (f a) = key a) (k' : κ) :
    (l.replaceF fun a => if key a = k then some (f a) else none).find? (key · == k') =
      if k' = k then (l.find? (key · == k)).map f else l.find? (key · == k') := by
  induction l with
  | nil => simp
  | cons a l ih =>
      by_cases hk : key a = k
      · by_cases hk' : k' = k
        · simp [List.replaceF, hk, hk', hf]
        · have hne : ¬ k = k' := fun h => hk' h.symm
          simp [List.replaceF, hk, hk', hf, hne]
      · by_cases hk' : key a = k'
        · have hne : ¬ k' = k := fun h => hk (hk'.trans h)
          simp [List.replaceF, hk', hne]
        · simp [List.replaceF, hk, hk', ih]

/-- Replacing one entry adds at most one that passes a test. -/
theorem countP_replaceF_le {α : Type} (test : α → Bool) (f : α → Option α) (l : List α) :
    (l.replaceF f).countP test ≤ l.countP test + 1 := by
  induction l with
  | nil => simp
  | cons a l ih =>
      cases ha : f a with
      | none =>
          rw [List.replaceF_cons_of_none _ ha, List.countP_cons, List.countP_cons]
          omega
      | some b =>
          rw [List.replaceF_cons_of_some _ ha, List.countP_cons, List.countP_cons]
          split <;> omega

end Keyed

end OpenSwitcher.Library
