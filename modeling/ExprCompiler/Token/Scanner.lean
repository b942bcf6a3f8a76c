import ExprCompiler.Token.Scan

set_option autoImplicit false

namespace ExprCompiler

-- `found` holds the tokens of the latest scan of the whole text.
structure Scanner where
  file : String
  source : List Char
  cursor : TextCursor
  found : List Token

namespace Scanner

def ofSource (file source : String) : Scanner :=
  ⟨file, source.toList, TextCursor.atStart source.toList, []⟩

def location (scanner : Scanner) : Location :=
  scanner.cursor.location scanner.file

def skipBlanks (scanner : Scanner) : Scanner :=
  { scanner with cursor := scanner.cursor.skipBlanks }

def advance (scanner : Scanner) : Scanner :=
  { scanner with cursor := scanner.cursor.advance }

def advanceBy (scanner : Scanner) (count : Int) : Scanner :=
  { scanner with cursor := scanner.cursor.advanceBy count.toNat }

def next (scanner : Scanner) : Except ScanError Token × Scanner :=
  let (token, cursor) := scanner.cursor.next scanner.file
  (token, { scanner with cursor := cursor })

def scanAll (scanner : Scanner) : Except ScanError (List Token) × Scanner :=
  let scan := Scan.ofSource scanner.file scanner.source
  (scan.result, { scanner with cursor := scan.cursor, found := scan.tokens })

end Scanner

end ExprCompiler
