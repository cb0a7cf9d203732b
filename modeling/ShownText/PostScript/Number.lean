namespace ShownText.PostScript

def isRadixNumber (cs : List Char) : Bool :=
  let base := cs.takeWhile (· != '#')
  let digits := (cs.dropWhile (· != '#')).drop 1
  !base.isEmpty && base.all Char.isDigit && !digits.isEmpty && digits.all Char.isAlphanum

def isSign (c : Char) : Bool := c == '+' || c == '-'

def dropSign : List Char → List Char
  | [] => []
  | c :: cs => if isSign c then cs else c :: cs

def isExponentMark (c : Char) : Bool := c == 'e' || c == 'E'

def isMantissa (cs : List Char) : Bool :=
  cs.all (fun c ↦ c.isDigit || c == '.') && decide (cs.count '.' ≤ 1)

def isExponent (cs : List Char) : Bool :=
  let digits := dropSign cs
  !digits.isEmpty && digits.all Char.isDigit

/-- The mantissa may be empty only between a sign and an exponent; a lone point is a mantissa. -/
def isDecimalNumber (cs : List Char) : Bool :=
  let body := dropSign cs
  let signed := body.length < cs.length
  let mantissa := body.takeWhile (!isExponentMark ·)
  isMantissa mantissa &&
    match body.dropWhile (!isExponentMark ·) with
    | [] => !mantissa.isEmpty
    | _ :: exponent => (signed || !mantissa.isEmpty) && isExponent exponent

def isNumber (word : String) : Bool := isRadixNumber word.toList || isDecimalNumber word.toList

end ShownText.PostScript
