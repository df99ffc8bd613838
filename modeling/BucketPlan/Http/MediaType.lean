namespace BucketPlan.MediaType

/-- The characters of a name. -/
def isToken (c : Char) : Bool :=
  c.isAlphanum || "!#$%&'*+-.^_`|~".toList.contains c

/-- The characters between the quotes of a parameter. -/
def isQuotable (c : Char) : Bool := 31 < c.toNat && c.toNat ≠ 127

/-- Reads a quoted value behind its opening quote, and gives what follows the
    closing one. There is at least one character between the quotes, which may be
    a quote itself. -/
def quoted? : List Char → Option (List Char)
  | c :: cs =>
    match cs.dropWhile fun c => c ≠ '"' && isQuotable c with
    | '"' :: rest => if isQuotable c then some rest else none
    | _ => none
  | [] => none

/-- Whether what follows a semicolon is a list of parameters. `fuel` bounds their
    number; each takes a character. -/
def parametersWellFormed : Nat → List Char → Bool
  | 0, _ => false
  | fuel + 1, cs =>
    match cs.dropWhile (· = ' ') with
    | [] => true
    | cs =>
      match cs.takeWhile isToken, cs.dropWhile isToken with
      | _ :: _, '=' :: '"' :: value =>
        match quoted? value with
        | some rest => nextParameter fuel (rest.dropWhile (· = ' '))
        | none => false
      | _ :: _, '=' :: value =>
        match value.takeWhile isToken, value.dropWhile isToken with
        | _, [] => true
        | _ :: _, rest => nextParameter fuel rest
        | [], _ => false
      | _, _ => false
where
  nextParameter (fuel : Nat) : List Char → Bool
    | [] => true
    | ';' :: rest => parametersWellFormed fuel rest
    | _ => false

/-- The subtype without its suffix, and the suffix. The last plus sign separates
    them, unless it is the first character. -/
def splitSuffix (subtype : List Char) : List Char × Option (List Char) :=
  let suffix := (subtype.reverse.takeWhile (· ≠ '+')).reverse
  let before := subtype.take (subtype.length - suffix.length - 1)
  if suffix.length < subtype.length ∧ before ≠ [] then (before, some suffix) else (subtype, none)

/-- The content type announces JSON. -/
def isJson (value : String) : Bool :=
  let cs := value.toList.map Char.toLower
  let main := cs.takeWhile isToken
  match cs.dropWhile isToken with
  | '/' :: rest =>
    let (subtype, suffix) := splitSuffix (rest.takeWhile isToken)
    let parameters := match rest.dropWhile isToken with
      | [] => true
      | ';' :: more => parametersWellFormed (more.length + 1) more
      | _ => false
    main = "application".toList && parameters &&
      (subtype = "json".toList || suffix = some "json".toList)
  | _ => false

end BucketPlan.MediaType
