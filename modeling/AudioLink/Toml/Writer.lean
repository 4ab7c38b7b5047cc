import AudioLink.Wire.Bytes

/-!
# Written TOML strings

A string is written in the plainest form that can hold it: between double marks if it needs no
escape, else between single marks, else over several lines, else with escapes.
-/

namespace AudioLink.Toml

/-- The characters that no form can hold without an escape. -/
def needsCode (c : Char) : Bool := c.toNat < 32 && c ≠ '\t' && c ≠ '\n' || c.toNat = 127

/-- The greatest number of times in a row that a character stands in a text; `run` counts the last
ones. -/
def longestRun (mark : Char) (run best : Nat) : List Char → Nat
  | [] => best
  | c :: rest =>
    let run := if c = mark then run + 1 else 0
    longestRun mark run (max best run) rest

/-- A backslash, a letter, and the number of a character in four digits. -/
def unicodeEscape (c : Char) : List Char :=
  let digit (n : Nat) : Char := (Hex.digit (n % 16)).toUpper
  let n := c.toNat
  ['\\', 'u', digit (n / 4096), digit (n / 256), digit (n / 16), digit n]

/-- The text of a string between double marks. Over several lines a newline stands for itself, and
so do up to two marks in a row; `run` counts the last ones. -/
def escapeText (multiline : Bool) (run : Nat) : List Char → List Char
  | [] => []
  | c :: rest =>
    if c = '"' then
      if multiline ∧ run < 2 then '"' :: escapeText multiline (run + 1) rest
      else '\\' :: '"' :: escapeText multiline 0 rest
    else
      let written :=
        if c = '\\' then ['\\', '\\']
        else if c = Char.ofNat 8 then ['\\', 'b']
        else if c = '\t' then ['\\', 't']
        else if c = Char.ofNat 12 then ['\\', 'f']
        else if c = '\r' then ['\\', 'r']
        else if c = '\n' then (if multiline then ['\n'] else ['\\', 'n'])
        else if needsCode c then unicodeEscape c
        else [c]
      written ++ escapeText multiline 0 rest

private def overLines (marks : List Char) (newlines : Bool) (text : List Char) : List Char :=
  marks ++ ((if newlines then ['\n'] else []) ++ (text ++ marks))

def quoted (text : String) : String :=
  let cs := text.toList
  let codes := cs.any needsCode
  let backslashes := cs.contains '\\'
  let newlines := cs.contains '\n'
  let double := longestRun '"' 0 0 cs
  let single := longestRun '\'' 0 0 cs
  let basic := ['"'] ++ (escapeText false 0 cs ++ ['"'])
  let basicLines := overLines ['"', '"', '"'] newlines (escapeText true 0 cs)
  String.ofList <|
    if !codes && !backslashes && double = 0 && !newlines then basic
    else if !codes && single = 0 && !newlines then ['\''] ++ (cs ++ ['\''])
    else if !codes && !backslashes && double ≤ 2 then basicLines
    else if !codes && single ≤ 2 then overLines ['\'', '\'', '\''] newlines cs
    else if newlines then basicLines
    else basic

end AudioLink.Toml
