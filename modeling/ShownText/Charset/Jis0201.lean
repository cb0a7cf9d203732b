namespace ShownText.Charset.Jis0201

def roman (b : UInt8) : Char :=
  if b = 0x5C then '¥' else if b = 0x7E then '‾' else Char.ofNat b.toNat

def katakana? (index : Nat) : Option Char :=
  if index < 0x3F then some (Char.ofNat (0xFF61 + index)) else none

end ShownText.Charset.Jis0201
