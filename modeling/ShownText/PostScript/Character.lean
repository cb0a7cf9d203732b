namespace ShownText.PostScript

def isWhitespace (c : Char) : Bool :=
  c == ' ' || c == '\t' || c == '\n' || c == '\r' || c == '\x0c' || c == '\x00'

def isSpecial (c : Char) : Bool :=
  c == '(' || c == ')' || c == '<' || c == '>' || c == '[' || c == ']' || c == '\x7b' ||
    c == '\x7d' || c == '/' || c == '%'

def endsWord (c : Char) : Bool := isWhitespace c || isSpecial c

def isRegular (c : Char) : Bool := !endsWord c

def isLineEnd (c : Char) : Bool := c == '\n' || c == '\r'

end ShownText.PostScript
