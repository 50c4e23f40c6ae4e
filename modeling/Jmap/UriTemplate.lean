import Jmap.Text.Percent

/-!
URLs with places to fill in: a variable's name between braces is replaced by its
value, percent-encoded down to unreserved characters.
-/

namespace Jmap.UriTemplate

def replaceAll (pattern replacement : List Char) : (fuel : Nat) → List Char → List Char
  | 0, text => text
  | _ + 1, [] => []
  | fuel + 1, char :: rest =>
    if pattern.isPrefixOf (char :: rest) then
      replacement ++ replaceAll pattern replacement fuel ((char :: rest).drop pattern.length)
    else char :: replaceAll pattern replacement fuel rest

def expression (variableName : String) : List Char :=
  '\x7b' :: (variableName.toList ++ ['\x7d'])

def encodeValue (value : String) : List Char := Percent.encode Percent.isUnreserved value.toList

def fill (variableName value : String) (text : List Char) : List Char :=
  replaceAll (expression variableName) (encodeValue value) (text.length + 1) text

def expand (template : String) (values : List (String × String)) : String :=
  String.ofList
    (values.foldl (fun text (variableName, value) => fill variableName value text) template.toList)

def expandUpload (template accountId : String) : String :=
  expand template [("accountId", accountId)]

def expandDownload (template accountId blobId name mediaType : String) : String :=
  expand template
    [("accountId", accountId), ("blobId", blobId), ("name", name), ("type", mediaType)]

end Jmap.UriTemplate
