import CrudPlan.Text.LetterCase

/-!
# Collection keys

The key under which a response lists the resources of a collection: the name of the resource with
a small first letter, in the plural. A consonant and `y` become `ies`; `es` follows a sibilant;
else `s` is appended. A line break at the end does not hide the ending before it.
-/

namespace CrudPlan

/-- A vowel of the plural rule. -/
def isVowel (c : Char) : Bool := "aeiou".toList.contains c

/-- The characters of a word from its end, without one line break there. -/
def ending (word : List Char) : List Char :=
  match word.reverse with
  | '\n' :: rest => rest
  | rest => rest

/-- Whether a word ends in a consonant and `y`. -/
def endsInConsonantY (word : List Char) : Bool :=
  match ending word with
  | 'y' :: c :: _ => !isVowel c
  | _ => false

/-- Whether a word ends in `s`, `x`, `z`, `ch` or `sh`. -/
def endsInSibilant (word : List Char) : Bool :=
  match ending word with
  | 's' :: _ | 'x' :: _ | 'z' :: _ => true
  | 'h' :: 'c' :: _ | 'h' :: 's' :: _ => true
  | _ => false

/-- The plural of a word. -/
def plural (word : List Char) : List Char :=
  if endsInConsonantY word then word.dropLast ++ ['i', 'e', 's']
  else if endsInSibilant word then word ++ ['e', 's']
  else word ++ ['s']

/-- A word with a small first letter. -/
def uncapitalize : List Char → List Char
  | [] => []
  | c :: rest => Text.lowerChar c ++ rest

/-- The key of the collection of a resource. -/
def collectionKey (resource : String) : String :=
  String.ofList (plural (uncapitalize resource.toList))

end CrudPlan
