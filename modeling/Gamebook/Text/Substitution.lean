-- Replacing every occurrence of a key in a text. The occurrences are the leftmost ones that do
-- not overlap, and what is put in is not searched again.
namespace Gamebook.Text

/-- Replaces a non-empty key, after passing over the first `skip` characters, which belong to
an occurrence already replaced. -/
def substituteFrom (key value : List Char) : (skip : Nat) → List Char → List Char
  | _, [] => []
  | skip + 1, _ :: cs => substituteFrom key value skip cs
  | 0, c :: cs =>
    if key.isPrefixOf (c :: cs) then value ++ substituteFrom key value (key.length - 1) cs
    else c :: substituteFrom key value 0 cs

/-- The text with every occurrence of `key` replaced by `value`. The empty key stands before
every character and at the end. -/
def substitute (key value cs : List Char) : List Char :=
  if key = [] then cs.flatMap (fun c => value ++ [c]) ++ value
  else substituteFrom key value 0 cs

/-- The same on strings. -/
def replaceAll (text key value : String) : String :=
  String.ofList (substitute key.toList value.toList text.toList)

end Gamebook.Text
