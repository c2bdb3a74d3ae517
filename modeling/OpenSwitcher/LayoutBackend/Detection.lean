import OpenSwitcher.Daemon.SwitchLogic
import OpenSwitcher.Library.Text
/-!
# Detection of the layouts

The layouts of a session, read from the answer of `setxkbmap -query` or from the
input sources of the desktop, and the layout that is active among them. Nothing is
confirmed that the rewriting of a word could not rely on.
-/

namespace OpenSwitcher.LayoutBackend

open Library

abbrev Text : Type := List Char

/-! ## Layout codes -/

def isValidNormalizedLayoutCode (value : Text) : Bool :=
  !value.isEmpty &&
    value.all fun ch => ('a' ≤ ch && ch ≤ 'z') || ('0' ≤ ch && ch ≤ '9') || ch == '-' || ch == '_'

/-- A code that is well formed. -/
abbrev NormalizedLayoutCode : Type := { value : Text // isValidNormalizedLayoutCode value = true }

inductive LayoutCode where
  | us
  | gb
  | ru
  | other (value : NormalizedLayoutCode)
  | unknown
deriving DecidableEq, Repr

namespace LayoutCode

/-- The text that is no layout code is the error. -/
def fromNormalized (value : Text) : Except Text LayoutCode :=
  if value = "us".toList then .ok .us
  else if value = "gb".toList then .ok .gb
  else if value = "ru".toList then .ok .ru
  else if value = "unknown".toList then .ok .unknown
  else if h : isValidNormalizedLayoutCode value = true then .ok (.other ⟨value, h⟩)
  else .error value

def normalizedStr : LayoutCode → Option Text
  | .us => some "us".toList
  | .gb => some "gb".toList
  | .ru => some "ru".toList
  | .other value => some value
  | .unknown => none

end LayoutCode

structure SystemLayout where
  backendKey : Text
  normalizedCode : LayoutCode
  displayName : Text
  kind : AppLayoutKind
  index : Option UInt32
deriving DecidableEq, Repr

inductive CurrentLayoutState where
  | known (layout : SystemLayout) (trustworthy : Bool)
  | unknown (reason : String)
deriving DecidableEq, Repr

inductive LayoutSetup where
  | strictPair (en ru : SystemLayout)
  | pairPlusOther (en ru : SystemLayout) (others : List SystemLayout)
  | unsupported (reason : String)
deriving DecidableEq, Repr

inductive LayoutSetupDetection where
  | confirmed (setup : LayoutSetup)
  | temporarilyUnavailable (reason : String)
  | unsupported (reason : String)
deriving DecidableEq, Repr

/-! ## Classification -/

def systemLayout (source layoutId : Text) (normalizedCode : LayoutCode) (index : UInt32) :
    SystemLayout :=
  let named : Text × AppLayoutKind := match normalizedCode with
    | .us =>
        (if source = "gnome".toList then "English".toList else "English (US)".toList, .english)
    | .gb => ("English (UK)".toList, .english)
    | .ru => ("Russian".toList, .russian)
    | .other _ => (layoutId, .other)
    | .unknown => ("Unknown".toList, .unknown)
  { backendKey :=
      if source = "gnome".toList then layoutId
      else source ++ ":".toList ++ layoutId ++ ":".toList ++ (toString index).toList
    normalizedCode
    displayName := named.1
    kind := named.2
    index := some index }

/-- The layouts of the codes from a position on, after the codes that were seen. -/
def systemLayouts (source : Text) (seen : List Text) (index : Nat) :
    List Text → Except String (List SystemLayout)
  | [] => .ok []
  | layoutId :: layoutIds =>
      if layoutId ∈ seen then
        .error "layout-code-duplicated"
      else
        match LayoutCode.fromNormalized layoutId with
        | .ok .unknown | .error _ => .error "layout-code-malformed"
        | .ok code => do
            let layouts ← systemLayouts source (layoutId :: seen) (index + 1) layoutIds
            return systemLayout source layoutId code (UInt32.ofNat index) :: layouts

def classifyPlainLayouts (source : Text) (layoutIds : List Text) : LayoutSetupDetection :=
  match systemLayouts source [] 0 layoutIds with
  | .error reason => .unsupported reason
  | .ok layouts =>
      match layouts.filter (·.kind == .english) with
      | [] => .unsupported "english-layout-missing"
      | _ :: _ :: _ => .unsupported "english-layout-duplicated"
      | [en] =>
          match layouts.filter (·.kind == .russian) with
          | [] => .unsupported "russian-layout-missing"
          | _ :: _ :: _ => .unsupported "russian-layout-duplicated"
          | [ru] =>
              if layouts.length = 2 then
                .confirmed (.strictPair en ru)
              else
                .confirmed (.pairPlusOther en ru (layouts.filter (·.kind == .other)))

/-! ## The two sources -/

/-- The values of a field, one for each line that starts with its name. -/
def fieldValues (query field : Text) : List Text :=
  (Text.lines query).filterMap fun line =>
    ((Text.trimStart line).dropPrefix? field).map Text.trim

def singleQueryField (query field : Text) : Except String (Option Text) :=
  match fieldValues query field with
  | [] => .ok none
  | [value] => .ok (some value)
  | _ :: _ :: _ => .error
      (if field = "layout:".toList then "x11-layout-duplicated"
        else if field = "variant:".toList then "x11-variant-duplicated"
        else "x11-query-field-duplicated")

/-- The entries of a value that commas separate. -/
def commaSeparated (value : Text) : List Text := (value.splitOn ',').map Text.trim

def detectX11SetupFromQuery (query : Text) : LayoutSetupDetection :=
  match singleQueryField query "layout:".toList with
  | .error reason => .unsupported reason
  | .ok none => .unsupported "x11-layout-missing"
  | .ok (some layoutValue) =>
      if layoutValue.isEmpty then
        .unsupported "x11-layout-missing"
      else if (commaSeparated layoutValue).any (·.isEmpty) then
        .unsupported "x11-layout-malformed"
      else
        match singleQueryField query "variant:".toList with
        | .error reason => .unsupported reason
        | .ok none => classifyPlainLayouts "x11".toList (commaSeparated layoutValue)
        | .ok (some value) =>
            if (commaSeparated value).length ≠ (commaSeparated layoutValue).length then
              .unsupported "x11-variant-count-mismatch"
            else if (commaSeparated value).any (!·.isEmpty) then
              .unsupported "x11-variant-unsupported"
            else
              classifyPlainLayouts "x11".toList (commaSeparated layoutValue)

structure GnomeInputSource where
  sourceType : Text
  sourceId : Text
deriving DecidableEq, Repr

/-- The sources come as one list, a type and an identifier in turn. -/
def parseGnomeSources : List Text → Except String (List GnomeInputSource)
  | [] => .ok []
  | [_] => .error "gnome-sources-malformed"
  | sourceType :: sourceId :: values => do
      let sources ← parseGnomeSources values
      return { sourceType, sourceId } :: sources

def detectGnomeSetupFromSources (values : List Text) : LayoutSetupDetection :=
  match parseGnomeSources values with
  | .error reason => .unsupported reason
  | .ok sources =>
      if sources.isEmpty then
        .unsupported "gnome-sources-empty"
      else if sources.any (·.sourceType != "xkb".toList) then
        .unsupported "gnome-source-type-unsupported"
      else
        classifyPlainLayouts "gnome".toList (sources.map (·.sourceId))

/-! ## The current layout -/

def layoutsFromConfirmedSetup : LayoutSetup → Option (List SystemLayout)
  | .strictPair en ru => some [en, ru]
  | .pairPlusOther en ru others => some (en :: ru :: others)
  | .unsupported _ => none

/-- Every layout has an index below the bound that none before it has. -/
def indicesApart (bound : UInt32) (indices : List UInt32) : List SystemLayout → Bool
  | [] => true
  | layout :: layouts =>
      match layout.index with
      | none => false
      | some index =>
          index < bound && !indices.contains index && indicesApart bound (index :: indices) layouts

def indicesMatchGroupCount (layouts : List SystemLayout) (actualNumGroups : UInt8) : Bool :=
  actualNumGroups.toNat == layouts.length && indicesApart actualNumGroups.toUInt32 [] layouts

def currentLayoutFromGroup (setup : LayoutSetup) (currentGroup actualNumGroups : UInt8) :
    CurrentLayoutState :=
  match layoutsFromConfirmedSetup setup with
  | none => .unknown "layout-setup-unconfirmed"
  | some layouts =>
      if indicesMatchGroupCount layouts actualNumGroups then
        match layouts.find? (·.index == some currentGroup.toUInt32) with
        | some layout => .known layout true
        | none => .unknown "layout-group-index-unknown"
      else
        .unknown "layout-group-count-mismatch"

def currentLayoutFromGnomeSources (configuredSources mruSources : List Text) :
    CurrentLayoutState :=
  match detectGnomeSetupFromSources configuredSources with
  | .confirmed setup =>
      match parseGnomeSources mruSources with
      | .error reason => .unknown reason
      | .ok [] => .unknown "gnome-mru-empty"
      | .ok (current :: _) =>
          if current.sourceType ≠ "xkb".toList then
            .unknown "gnome-current-source-type-unsupported"
          else
            match (layoutsFromConfirmedSetup setup).bind (·.find? fun layout =>
              layout.normalizedCode.normalizedStr == some current.sourceId) with
            | some layout => .known layout true
            | none => .unknown "gnome-current-source-unknown"
  | _ => .unknown "gnome-layout-setup-unconfirmed"

end OpenSwitcher.LayoutBackend
