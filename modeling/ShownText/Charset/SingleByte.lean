import ShownText.Charset.Decoder

namespace ShownText.Charset.SingleByte

def place? (c : Char) : Place := if c = '\ufffd' then none else some c

def step (table : Array Char) (b : UInt8) : Place :=
  if b < 0x80 then some (Char.ofNat b.toNat) else table[b.toNat - 0x80]?.bind place?

def decoder (table : Array Char) : Decoder :=
  ⟨Unit, (), fun _ b ↦ ([step table b], ()), fun _ ↦ []⟩

def run (first last : Nat) : List Char :=
  (List.range' first (last + 1 - first)).map Char.ofNat

def unmapped (n : Nat) : List Char := List.replicate n '\ufffd'

def ibm866 : List Char :=
  run 0x410 0x43F ++ "░▒▓│┤╡╢╖╕╣║╗╝╜╛┐└┴┬├─┼╞╟╚╔╩╦╠═╬╧╨╤╥╙╘╒╓╫╪┘┌█▄▌▐▀".toList ++
    run 0x440 0x44F ++ "ЁёЄєЇїЎў°∙·√№¤■\u00a0".toList

def iso8859_2 : List Char :=
  run 0x80 0xA0 ++
    "Ą\u02d8Ł¤ĽŚ§\u00a8ŠŞŤŹ\u00adŽŻ°ą\u02dbł\u00b4ľś\u02c7\u00b8šşťź\u02ddžżŔÁÂĂÄĹĆ".toList ++
    "ÇČÉĘËĚÍÎĎĐŃŇÓÔŐÖ×ŘŮÚŰÜÝŢßŕáâăäĺćçčéęëěíîďđńňóôőö÷řůúűüýţ\u02d9".toList

def iso8859_3 : List Char :=
  run 0x80 0xA0 ++
    "Ħ\u02d8£¤\ufffdĤ§\u00a8İŞĞĴ\u00ad\ufffdŻ°ħ²³\u00b4µĥ·\u00b8ışğĵ½\ufffdżÀÁÂ".toList ++
    "\ufffdÄĊĈÇÈÉÊËÌÍÎÏ\ufffdÑÒÓÔĠÖ×ĜÙÚÛÜŬŜßàáâ\ufffdäċĉçèéêëìíîï\ufffdñòóôġö÷ĝùúûü".toList ++
    "ŭŝ\u02d9".toList

def iso8859_4 : List Char :=
  run 0x80 0xA0 ++
    "ĄĸŖ¤ĨĻ§\u00a8ŠĒĢŦ\u00adŽ\u00af°ą\u02dbŗ\u00b4ĩļ\u02c7\u00b8šēģŧŊžŋĀÁÂÃÄÅÆĮČÉĘË".toList ++
    "ĖÍÎĪĐŅŌĶÔÕÖ×ØŲÚÛÜŨŪßāáâãäåæįčéęëėíîīđņōķôõö÷øųúûüũū\u02d9".toList

def iso8859_5 : List Char :=
  run 0x80 0xA0 ++ run 0x401 0x40C ++ "\u00ad".toList ++ run 0x40E 0x44F ++ "№".toList ++
    run 0x451 0x45C ++ "§ўџ".toList

def iso8859_6 : List Char :=
  run 0x80 0xA0 ++ "\ufffd\ufffd\ufffd¤".toList ++ unmapped 7 ++ "،\u00ad".toList ++
    unmapped 13 ++ "\u061b\ufffd\ufffd\ufffd\u061f\ufffd".toList ++ run 0x621 0x63A ++
    unmapped 5 ++ run 0x640 0x652 ++ unmapped 13

def iso8859_7 : List Char :=
  run 0x80 0xA0 ++ "‘’£€₯¦§\u00a8©\u037a«¬\u00ad\ufffd―°±²³\u0384\u0385Ά·ΈΉΊ»Ό½".toList ++
    run 0x38E 0x3A1 ++ "\ufffd".toList ++ run 0x3A3 0x3CE ++ "\ufffd".toList

def iso8859_8 : List Char :=
  run 0x80 0xA0 ++ "\ufffd¢£¤¥¦§\u00a8©×".toList ++ run 0xAB 0xB9 ++ "÷»¼½¾".toList ++
    unmapped 32 ++ "‗".toList ++ run 0x5D0 0x5EA ++ "\ufffd\ufffd\u200e\u200f\ufffd".toList

def iso8859_10 : List Char :=
  run 0x80 0xA0 ++
    "ĄĒĢĪĨĶ§ĻĐŠŦŽ\u00adŪŊ°ąēģīĩķ·ļđšŧž―ūŋĀÁÂÃÄÅÆĮČÉĘËĖÍÎÏÐŅŌÓÔÕÖŨØŲÚÛÜÝÞßāáâãäåæįčé".toList ++
    "ęëėíîïðņōóôõöũøųúûüýþĸ".toList

def iso8859_13 : List Char :=
  run 0x80 0xA0 ++
    "”¢£¤„¦§Ø©Ŗ«¬\u00ad®Æ°±²³“µ¶·ø¹ŗ»¼½¾æĄĮĀĆÄÅĘĒČÉŹĖĢĶĪĻŠŃŅÓŌÕÖ×ŲŁŚŪÜŻŽßąįāćäåęēčé".toList ++
    "źėģķīļšńņóōõö÷ųłśūüżž’".toList

def iso8859_14 : List Char :=
  run 0x80 0xA0 ++ "Ḃḃ£ĊċḊ§Ẁ©ẂḋỲ\u00ad®ŸḞḟĠġṀṁ¶ṖẁṗẃṠỳẄẅṡ".toList ++ run 0xC0 0xCF ++
    "ŴÑÒÓÔÕÖṪØÙÚÛÜÝŶ".toList ++ run 0xDF 0xEF ++ "ŵñòóôõöṫøùúûüýŷÿ".toList

def iso8859_15 : List Char :=
  run 0x80 0xA3 ++ "€¥Š§š©ª«¬\u00ad®\u00af°±²³Žµ¶·ž¹º»ŒœŸ".toList ++ run 0xBF 0xFF

def iso8859_16 : List Char :=
  run 0x80 0xA0 ++
    "ĄąŁ€„Š§š©Ș«Ź\u00adźŻ°±ČłŽ”¶·žčș»ŒœŸżÀÁÂĂÄĆÆÇÈÉÊËÌÍÎÏĐŃÒÓÔŐÖŚŰÙÚÛÜĘȚßàáâăäćæçèé".toList ++
    "êëìíîïđńòóôőöśűùúûüęțÿ".toList

def koi8R : List Char :=
  "─│┌┐└┘├┤┬┴┼▀▄█▌▐░▒▓⌠■∙√≈≤≥\u00a0⌡°²·÷═║╒ё".toList ++ run 0x2553 0x2561 ++
    "Ё╢╣╤╥╦╧╨╩╪╫╬©юабцдефгхийклмнопярстужвьызшэщчъЮАБЦДЕФГХИЙКЛМНОПЯРСТУЖВЬЫЗШЭЩЧЪ".toList

def koi8U : List Char :=
  "─│┌┐└┘├┤┬┴┼▀▄█▌▐░▒▓⌠■∙√≈≤≥\u00a0⌡°²·÷═║╒ёє╔ії╗╘╙╚╛ґў╞╟╠╡ЁЄ╣ІЇ╦╧╨╩╪ҐЎ©юабцдефгх".toList ++
    "ийклмнопярстужвьызшэщчъЮАБЦДЕФГХИЙКЛМНОПЯРСТУЖВЬЫЗШЭЩЧЪ".toList

def macintosh : List Char :=
  "ÄÅÇÉÑÖÜáàâäãåçéèêëíìîïñóòôöõúùûü†°¢£§•¶ß®©™\u00b4\u00a8≠ÆØ∞±≤≥¥µ∂∑∏π∫ªºΩæø¿¡¬√".toList ++
    "ƒ≈∆«»…\u00a0ÀÃÕŒœ–—“”‘’÷◊ÿŸ⁄€‹›ﬁﬂ‡·‚„‰ÂÊÁËÈÍÎÏÌÓÔ\uf8ffÒÚÛÙı\u02c6\u02dc\u00af".toList ++
    "\u02d8\u02d9\u02da\u00b8\u02dd\u02db\u02c7".toList

def windows874 : List Char :=
  "€\u0081\u0082\u0083\u0084…\u0086\u0087\u0088\u0089\u008a\u008b\u008c\u008d".toList ++
    "\u008e\u008f\u0090‘’“”•–—\u0098\u0099\u009a\u009b\u009c\u009d\u009e\u009f".toList ++
    "\u00a0".toList ++ run 0xE01 0xE3A ++ unmapped 4 ++ run 0xE3F 0xE5B ++ unmapped 4

def windows1250 : List Char :=
  "€\u0081‚\u0083„…†‡\u0088‰Š‹ŚŤŽŹ\u0090‘’“”•–—\u0098™š›śťžź\u00a0\u02c7\u02d8Ł¤Ą".toList ++
    "¦§\u00a8©Ş«¬\u00ad®Ż°±\u02dbł\u00b4µ¶·\u00b8ąş»Ľ\u02ddľżŔÁÂĂÄĹĆÇČÉĘËĚÍÎĎĐŃŇÓÔŐ".toList ++
    "Ö×ŘŮÚŰÜÝŢßŕáâăäĺćçčéęëěíîďđńňóôőö÷řůúűüýţ\u02d9".toList

def windows1251 : List Char :=
  "ЂЃ‚ѓ„…†‡€‰Љ‹ЊЌЋЏђ‘’“”•–—\u0098™љ›њќћџ\u00a0ЎўЈ¤Ґ¦§Ё©Є«¬\u00ad®Ї°±Ііґµ¶·ё№є»јЅѕ".toList ++
    "ї".toList ++ run 0x410 0x44F

def windows1252 : List Char :=
  "€\u0081‚ƒ„…†‡\u02c6‰Š‹Œ\u008dŽ\u008f\u0090‘’“”•–—\u02dc™š›œ\u009džŸ".toList ++ run 0xA0 0xFF

def windows1253 : List Char :=
  "€\u0081‚ƒ„…†‡\u0088‰\u008a‹\u008c\u008d\u008e\u008f\u0090‘’“”•–—\u0098™\u009a›".toList ++
    "\u009c\u009d\u009e\u009f\u00a0\u0385Ά£¤¥¦§\u00a8©\ufffd«¬\u00ad®―°±²³\u0384µ¶·".toList ++
    "ΈΉΊ»Ό½".toList ++ run 0x38E 0x3A1 ++ "\ufffd".toList ++ run 0x3A3 0x3CE ++ "\ufffd".toList

def windows1254 : List Char :=
  "€\u0081‚ƒ„…†‡\u02c6‰Š‹Œ\u008d\u008e\u008f\u0090‘’“”•–—\u02dc™š›œ\u009d\u009eŸ".toList ++
    run 0xA0 0xCF ++ "Ğ".toList ++ run 0xD1 0xDC ++ "İŞ".toList ++ run 0xDF 0xEF ++ "ğ".toList ++
    run 0xF1 0xFC ++ "ışÿ".toList

def windows1255 : List Char :=
  "€\u0081‚ƒ„…†‡\u02c6‰\u008a‹\u008c\u008d\u008e\u008f\u0090‘’“”•–—\u02dc™\u009a›".toList ++
    "\u009c\u009d\u009e\u009f\u00a0¡¢£₪¥¦§\u00a8©×".toList ++ run 0xAB 0xB9 ++ "÷»¼½¾¿".toList ++
    run 0x5B0 0x5C3 ++ "\u05f0\u05f1\u05f2\u05f3\u05f4".toList ++ unmapped 7 ++ run 0x5D0 0x5EA ++
    "\ufffd\ufffd\u200e\u200f\ufffd".toList

def windows1256 : List Char :=
  "€\u067e‚ƒ„…†‡\u02c6‰\u0679‹Œ\u0686\u0698\u0688\u06af‘’“”•–—\u06a9™\u0691›œ".toList ++
    "\u200c\u200d\u06ba\u00a0،¢£¤¥¦§\u00a8©\u06be".toList ++ run 0xAB 0xB9 ++
    "\u061b»¼½¾\u061f\u06c1".toList ++ run 0x621 0x636 ++
    "×\u0637\u0638\u0639\u063a\u0640\u0641\u0642\u0643à\u0644â\u0645\u0646\u0647".toList ++
    "\u0648çèéêë\u0649\u064aîï\u064b\u064c\u064d\u064eô\u064f\u0650÷\u0651ù\u0652ûü".toList ++
    "\u200e\u200f\u06d2".toList

def windows1257 : List Char :=
  "€\u0081‚\u0083„…†‡\u0088‰\u008a‹\u008c\u00a8\u02c7\u00b8\u0090‘’“”•–—\u0098™".toList ++
    "\u009a›\u009c\u00af\u02db\u009f\u00a0\ufffd¢£¤\ufffd¦§Ø©Ŗ«¬\u00ad®Æ°±²³\u00b4µ".toList ++
    "¶·ø¹ŗ»¼½¾æĄĮĀĆÄÅĘĒČÉŹĖĢĶĪĻŠŃŅÓŌÕÖ×ŲŁŚŪÜŻŽßąįāćäåęēčéźėģķīļšńņóōõö÷ųłśūüżž".toList ++
    "\u02d9".toList

def windows1258 : List Char :=
  "€\u0081‚ƒ„…†‡\u02c6‰\u008a‹Œ\u008d\u008e\u008f\u0090‘’“”•–—\u02dc™\u009a›œ".toList ++
    "\u009d\u009eŸ".toList ++ run 0xA0 0xC2 ++
    "ĂÄÅÆÇÈÉÊË\u0300ÍÎÏĐÑ\u0309ÓÔƠÖ×ØÙÚÛÜƯ\u0303ßàáâăäåæçèéêë\u0301íîïđñ\u0323óôơö÷".toList ++
    "øùúûüư₫ÿ".toList

def macCyrillic : List Char :=
  run 0x410 0x42F ++
    "†°Ґ£§•¶І®©™Ђђ≠Ѓѓ∞±≤≥іµґЈЄєЇїЉљЊњјЅ¬√ƒ≈∆«»…\u00a0ЋћЌќѕ–—“”‘’÷„ЎўЏџ№Ёёя".toList ++
    run 0x430 0x44E ++ "€".toList

def userDefined : List Char :=
  run 0xF780 0xF7FF

end ShownText.Charset.SingleByte
