import Mathlib.Data.UInt
/-!
# Keys

Kernel key codes, and the key classes the daemon distinguishes.
-/

namespace OpenSwitcher

/-- A kernel key code. -/
structure Key where
  code : UInt16
deriving DecidableEq, Repr, Inhabited

namespace Key

def keyEsc : Key := ⟨1⟩
def key1 : Key := ⟨2⟩
def key2 : Key := ⟨3⟩
def key3 : Key := ⟨4⟩
def key4 : Key := ⟨5⟩
def key5 : Key := ⟨6⟩
def key6 : Key := ⟨7⟩
def key7 : Key := ⟨8⟩
def key8 : Key := ⟨9⟩
def key9 : Key := ⟨10⟩
def key0 : Key := ⟨11⟩
def keyMinus : Key := ⟨12⟩
def keyEqual : Key := ⟨13⟩
def keyBackspace : Key := ⟨14⟩
def keyTab : Key := ⟨15⟩
def keyQ : Key := ⟨16⟩
def keyW : Key := ⟨17⟩
def keyE : Key := ⟨18⟩
def keyR : Key := ⟨19⟩
def keyT : Key := ⟨20⟩
def keyY : Key := ⟨21⟩
def keyU : Key := ⟨22⟩
def keyI : Key := ⟨23⟩
def keyO : Key := ⟨24⟩
def keyP : Key := ⟨25⟩
def keyLeftBrace : Key := ⟨26⟩
def keyRightBrace : Key := ⟨27⟩
def keyEnter : Key := ⟨28⟩
def keyLeftCtrl : Key := ⟨29⟩
def keyA : Key := ⟨30⟩
def keyS : Key := ⟨31⟩
def keyD : Key := ⟨32⟩
def keyF : Key := ⟨33⟩
def keyG : Key := ⟨34⟩
def keyH : Key := ⟨35⟩
def keyJ : Key := ⟨36⟩
def keyK : Key := ⟨37⟩
def keyL : Key := ⟨38⟩
def keySemicolon : Key := ⟨39⟩
def keyApostrophe : Key := ⟨40⟩
def keyGrave : Key := ⟨41⟩
def keyLeftShift : Key := ⟨42⟩
def keyBackslash : Key := ⟨43⟩
def keyZ : Key := ⟨44⟩
def keyX : Key := ⟨45⟩
def keyC : Key := ⟨46⟩
def keyV : Key := ⟨47⟩
def keyB : Key := ⟨48⟩
def keyN : Key := ⟨49⟩
def keyM : Key := ⟨50⟩
def keyComma : Key := ⟨51⟩
def keyDot : Key := ⟨52⟩
def keySlash : Key := ⟨53⟩
def keyRightShift : Key := ⟨54⟩
def keyLeftAlt : Key := ⟨56⟩
def keySpace : Key := ⟨57⟩
def keyCapsLock : Key := ⟨58⟩
def keyF9 : Key := ⟨67⟩
def keyF10 : Key := ⟨68⟩
def keyScrollLock : Key := ⟨70⟩
def keyF12 : Key := ⟨88⟩
def keyRightCtrl : Key := ⟨97⟩
def keyRightAlt : Key := ⟨100⟩
def keyInsert : Key := ⟨110⟩
def keyPause : Key := ⟨119⟩
def keyLeftMeta : Key := ⟨125⟩
def keyRightMeta : Key := ⟨126⟩
def keyMenu : Key := ⟨139⟩

end Key

end OpenSwitcher
