namespace Jmap.Toml

def longestRun (mark : Char) : (current : Nat) → List Char → Nat
  | current, [] => current
  | current, char :: rest =>
    if char = mark then longestRun mark (current + 1) rest
    else max current (longestRun mark 0 rest)

def needsEscape (char : Char) : Bool :=
  (char.toNat < 0x20 && char != '\t' && char != '\n') || char == '\x7f'

def hexDigit (value : Nat) : Char := (Nat.digitChar (value % 16)).toUpper

def escape (char : Char) : List Char :=
  if char = '\x08' then ['\\', 'b']
  else if char = '\t' then ['\\', 't']
  else if char = '\n' then ['\\', 'n']
  else if char = '\x0c' then ['\\', 'f']
  else if char = '\r' then ['\\', 'r']
  else if char = '\\' then ['\\', '\\']
  else if needsEscape char then
    ['\\', 'u', '0', '0', hexDigit (char.toNat / 16), hexDigit char.toNat]
  else [char]

def escapeLine (text : List Char) : List Char :=
  text.flatMap (fun char => if char = '"' then ['\\', '"'] else escape char)

/-- Text over several lines, after `quotes` quotes: the third of a run is escaped. -/
def escapeLines : (quotes : Nat) → List Char → List Char
  | _, [] => []
  | quotes, char :: rest =>
    if char = '"' then
      if quotes = 2 then '\\' :: '"' :: escapeLines 0 rest else '"' :: escapeLines (quotes + 1) rest
    else if char = '\n' then '\n' :: escapeLines 0 rest
    else escape char ++ escapeLines 0 rest

/-- A line end behind the opening quotes does not count, so one is put there
before text that has any. -/
def firstLine (text : List Char) : List Char := if text.contains '\n' then ['\n'] else []

def quote (text : List Char) : List Char :=
  let singles := longestRun '\'' 0 text
  let doubles := longestRun '"' 0 text
  let controls := text.any needsEscape
  let lines := text.contains '\n'
  let backslash := text.contains '\\'
  let basic := '"' :: (escapeLine text ++ ['"'])
  let longBasic := ['"', '"', '"'] ++ firstLine text ++ escapeLines 0 text ++ ['"', '"', '"']
  let longLiteral := ['\'', '\'', '\''] ++ firstLine text ++ text ++ ['\'', '\'', '\'']
  if !controls && !backslash && doubles == 0 && !lines then basic
  else if !controls && singles == 0 && !lines then '\'' :: (text ++ ['\''])
  else if !controls && !backslash && doubles ≤ 2 then longBasic
  else if !controls && singles ≤ 2 then longLiteral
  else if lines then longBasic
  else basic

end Jmap.Toml
