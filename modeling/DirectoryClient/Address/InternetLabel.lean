import DirectoryClient.Text.Composition
import DirectoryClient.Text.Direction
import DirectoryClient.Text.Joining
import DirectoryClient.Text.PlainForm
import DirectoryClient.Text.Punycode

/-! Labels: the parts of a name on the internet that full stops keep apart. What a label may be made of
is a rule about its text, and whether labels go together is one about their directions. -/
namespace DirectoryClient.Address

open Text

def isForbidden (c : Char) : Bool := "\x00\t\n\r #/:<>?@[\\]^|".contains c

private def longestText : Nat := 1000

private def longestWritten : Nat := 2000

private def nearest? (cs : List Char) : Option Char := cs.find? (!isTransparent ·)

/-- Joiners stand where they make a difference: after a sign that takes the vowel off a letter, or, for
the one that keeps letters from joining, between two that would. The characters before come from the
last one backwards. -/
private def joinersFit (before : List Char) : List Char → Bool
  | [] => true
  | c :: after =>
    let isUseful :=
      before.head?.any (markOrder · == vowelKiller)
        || c == nonJoiner && (nearest? before).any joinsAfter && (nearest? after).any joinsBefore
    ((c != joiner && c != nonJoiner) || isUseful) && joinersFit (c :: before) after

/-- The text of a label: none of its characters is forbidden, the first one stands by itself, joiners
are in place, and it is not too long. -/
def isLabelText (text : List Char) : Bool :=
  !text.any (fun c => isForbidden c || c == '%') && !text.head?.any isMark && joinersFit [] text
    && (text.all (·.toNat < 0x80) || text.length ≤ longestText)

private def isPlainText (text : List Char) : Bool :=
  text.all (fun c => plainForm? c == some [c]) && composed text == text

/-- The text of a label. One that begins so has it written in plain letters, which only a text may be
that could not be written more plainly. -/
def labelText? (label : List Char) : Option (List Char) :=
  match label with
  | 'x' :: 'n' :: '-' :: '-' :: written =>
    if written.all (·.toNat < 0x80) && written.getLast?.any (· != '-')
        && written.length ≤ longestWritten then
      (Punycode.decode? written).filter isPlainText
    else none
  | _ => some label

private def isLeftward (d : Direction) : Bool := d == .rightToLeft || d == .arabicNumber

/-- The directions in a label that is shown apart from its neighbours, whatever theirs are. It begins
with a letter, ends with a letter or a digit, and keeps its direction throughout. From right to left,
its digits are of one kind. Marks at its end do not count. -/
private def staysApart : List Direction → Bool
  | [] => true
  | first :: rest =>
    let rest := rest.reverse.dropWhile (· == .inherited)
    match first with
    | .leftToRight =>
      rest.head?.all (fun d => d == .leftToRight || d == .number) && !rest.any isLeftward
    | .rightToLeft =>
      rest.head?.all (fun d => isLeftward d || d == .number) && !rest.contains .leftToRight
        && !(rest.contains .number && rest.contains .arabicNumber)
    | _ => false

/-- The directions of labels in one name go together: if there is something from right to left in one
of them, each is shown apart from its neighbours. -/
def directionsAgree (labels : List (List Direction)) : Bool :=
  !labels.any (·.any isLeftward) || labels.all staysApart

end DirectoryClient.Address
