/-!
# Media types

`MediaType.parse?` reads a media type with its parameters. Letter case is of no
account in it, and `MediaType.isJson` tells whether a body of the type is JSON.
-/

namespace ClaExemption.Http

/-- A media type, in lower case and without its parameters. -/
structure MediaType where
  topLevel : String
  subtype : String
  /-- What follows the last plus sign of the subtype. -/
  suffix : Option String
deriving DecidableEq, Repr

/-- Whether a character may stand in a name. -/
def isTokenChar (c : Char) : Bool :=
  c.isAlphanum || "!#$%&'*+-.^_`|~".toList.contains c

/-- Whether a character may stand in a quoted value. -/
def isQuotedChar (c : Char) : Bool := 31 < c.toNat && c.toNat != 127

/-- Whether only spaces stand in front of the next parameter, and what follows it. -/
def afterQuoted : List Char → Option (List Char)
  | [] => some []
  | ';' :: rest => some rest
  | ' ' :: rest => afterQuoted rest
  | _ => none

/-- The rest after a quoted value that is not empty, whose first character may be any. -/
def skipQuoted : Bool → List Char → Option (List Char)
  | _, [] => none
  | started, c :: rest =>
    if c = '"' ∧ started then some rest
    else if isQuotedChar c then skipQuoted true rest
    else none

/-- The rest after the value of a parameter and the semicolon that follows it. -/
def skipValue : List Char → Option (List Char)
  | '"' :: rest => (skipQuoted false rest).bind afterQuoted
  | s =>
    let (value, rest) := s.span isTokenChar
    match rest with
    | [] => some []
    | ';' :: rest => if value.isEmpty then none else some rest
    | _ => none

/-- Whether a text is a list of parameters. -/
def isParameters : Nat → List Char → Bool
  | 0, _ => false
  | fuel + 1, s =>
    match s.dropWhile (· == ' ') with
    | [] => true
    | s =>
      let (name, rest) := s.span isTokenChar
      match rest with
      | '=' :: rest => !name.isEmpty && (skipValue rest).any (isParameters fuel)
      | _ => false

/-- What stands before and after the last plus sign that is not the first character. -/
def cutSuffix (s : List Char) : List Char × Option (List Char) :=
  let (suffix, before) := s.reverse.span (· != '+')
  match before with
  | _ :: c :: before => ((c :: before).reverse, some suffix.reverse)
  | _ => (s, none)

/-- The text in lower case, where only letters of the basic alphabet can occur. -/
def lowerToken (s : List Char) : String := String.ofList (s.map Char.toLower)

/-- Reads a media type. -/
def MediaType.parse? (s : String) : Option MediaType :=
  let (topLevel, rest) := s.toList.span isTokenChar
  match topLevel, rest with
  | _ :: _, '/' :: rest =>
    let (full, rest) := rest.span isTokenChar
    let (subtype, suffix) := cutSuffix full
    let parsed : MediaType := ⟨lowerToken topLevel, lowerToken subtype, suffix.map lowerToken⟩
    match rest with
    | [] => some parsed
    | ';' :: parameters =>
      if !full.isEmpty && isParameters (parameters.length + 1) parameters then some parsed else none
    | _ => none
  | _, _ => none

/-- Whether a body of the type is JSON. -/
def MediaType.isJson (m : MediaType) : Bool :=
  m.topLevel == "application" && (m.subtype == "json" || m.suffix == some "json")

end ClaExemption.Http
