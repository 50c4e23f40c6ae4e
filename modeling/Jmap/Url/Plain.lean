import Jmap.Text.Percent

namespace Jmap.Url

def isControlOrWide (char : Char) : Bool := char.toNat < 0x20 || 0x7F ≤ char.toNat

def plainBut (others : String) (char : Char) : Bool :=
  !isControlOrWide char && !others.toList.contains char

def plainInOpaque : Char → Bool := plainBut ""

def plainInFragment : Char → Bool := plainBut " \"<>`"

def plainInQuery : Char → Bool := plainBut " \"#<>"

def plainInSpecialQuery : Char → Bool := plainBut " \"#<>'"

def plainInPath : Char → Bool := plainBut " \"#<>?`\x7b\x7d"

def plainInUser : Char → Bool := plainBut " \"#<>?^`\x7b\x7d/:;=@[\\]|"

def encoded (plain : Char → Bool) (text : List Char) : String :=
  String.ofList (Percent.encode plain text)

end Jmap.Url
