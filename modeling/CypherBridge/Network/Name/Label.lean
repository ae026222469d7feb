import CypherBridge.Network.Name.Direction
import CypherBridge.Network.Name.Fold
import CypherBridge.Network.Name.Joining
import CypherBridge.Network.Name.Normal
import CypherBridge.Network.Name.Punycode

/-!
# Labels

What may stand between the dots of a name. A packed label has to unpack to something that had to
be packed and that is in common form. A label beyond ASCII begins with no mark, and joiners stand
in it only where they show. If a name is written from right to left anywhere, then every label of
it is written in one direction.
-/

namespace CypherBridge.Network

def longestCode : Nat := 2000

def readLabel? : List Char → Option (List Char)
  | 'x' :: 'n' :: '-' :: '-' :: code =>
      if code.length ≤ longestCode && code.all isAscii then
        match Punycode.unpack? code with
        | some label =>
            if !label.all isAscii && label.all isFolded && isComposed label then some label
            else none
        | none => none
      else none
  | label => some label

def startsWithMark (label : List Char) : Bool := label.head?.any isMark

def nonJoiner : Char := '\u200c'

def joiner : Char := '\u200d'

def reaches (sides : List Joining) (cs : List Char) : Bool :=
  match cs.dropWhile (joiningOf · == .transparent) with
  | [] => false
  | c :: _ => sides.contains (joiningOf c)

def joinerShows (before : List Char) (c : Char) (after : List Char) : Bool :=
  match before with
  | [] => false
  | d :: _ =>
      isVirama d ||
        (c == nonJoiner && reaches [.after, .both] before && reaches [.before, .both] after)

def joinersShow (before : List Char) : List Char → Bool
  | [] => true
  | c :: after =>
      (!(c == nonJoiner || c == joiner) || joinerShows before c after) &&
        joinersShow (c :: before) after

def longestLabel : Nat := 1000

def isSound (label : List Char) : Bool :=
  label.all isAscii ||
    (decide (label.length ≤ longestLabel) && !startsWithMark label && joinersShow [] label)

def isFromRight (c : Char) : Bool := directionOf c == .right || directionOf c == .arabic

/-- A label from the left ends in a letter or a European digit and holds nothing from the right.
One from the right ends in a letter or a digit, and holds no letter from the left nor digits of
both kinds. Marks at the end do not count. -/
def keepsDirection (label : List Char) : Bool :=
  match label.map directionOf with
  | [] => true
  | first :: more =>
      let more := more.reverse.dropWhile (· == .mark)
      let last := more.headD first
      match first with
      | .left =>
          (last == .left || last == .european) && !more.contains .right && !more.contains .arabic
      | .right =>
          (last == .right || last == .european || last == .arabic) && !more.contains .left &&
            !(more.contains .european && more.contains .arabic)
      | _ => false

def keepDirections (labels : List (List Char)) : Bool :=
  !labels.any (·.any isFromRight) || labels.all keepsDirection

end CypherBridge.Network
