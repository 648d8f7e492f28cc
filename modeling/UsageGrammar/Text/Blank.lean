/-! Blanks, which are the white space characters of all scripts, and line ends: trimming, and splitting at
blanks or into lines. -/

set_option autoImplicit false

namespace UsageGrammar.Text

def blankPoints : List Nat := [
  9, 10, 11, 12, 13, 28, 29, 30, 31, 32, 133, 160, 5760, 8192, 8193, 8194, 8195, 8196, 8197, 8198,
  8199, 8200, 8201, 8202, 8232, 8233, 8239, 8287, 12288]

def isBlank (c : Char) : Bool :=
  blankPoints.contains c.toNat

def strip (s : List Char) : List Char :=
  ((s.dropWhile isBlank).reverse.dropWhile isBlank).reverse

def trim (s : String) : String :=
  String.ofList (strip s.toList)

def allBlank (s : String) : Bool :=
  s.toList.all isBlank

/-- The runs of other characters, in order; `opened` is the run being read, last character first. -/
def fieldsFrom (opened : List Char) : List Char → List (List Char)
  | [] => if opened.isEmpty then [] else [opened.reverse]
  | c :: rest =>
    if isBlank c then
      if opened.isEmpty then fieldsFrom [] rest else opened.reverse :: fieldsFrom [] rest
    else fieldsFrom (c :: opened) rest

def fields (s : String) : List String :=
  (fieldsFrom [] s.toList).map String.ofList

/-- Characters that end a line; a carriage return and a line feed after it end one line together. -/
def isLineBreak (c : Char) : Bool :=
  [10, 11, 12, 13, 28, 29, 30, 133, 8232, 8233].contains c.toNat

def linesFrom (opened : List Char) : List Char → List (List Char)
  | [] => if opened.isEmpty then [] else [opened.reverse]
  | '\r' :: '\n' :: rest => opened.reverse :: linesFrom [] rest
  | c :: rest =>
    if isLineBreak c then opened.reverse :: linesFrom [] rest else linesFrom (c :: opened) rest

/-- The lines without their ends. A line end at the end of the text opens no further line. -/
def lines (s : String) : List String :=
  (linesFrom [] s.toList).map String.ofList

end UsageGrammar.Text
