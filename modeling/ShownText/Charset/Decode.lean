import ShownText.Charset.Basic
import ShownText.Charset.Iso2022Jp
import ShownText.Charset.ShiftJis
import ShownText.Charset.SingleByte
import ShownText.Charset.Utf8
import ShownText.Charset.Utf16

namespace ShownText.Charset

/-- Decoding with the charsets whose tables are not part of the library. -/
class LegacyDecoders where
  gbk : List UInt8 → Decoded
  gb18030 : List UInt8 → Decoded
  big5 : List UInt8 → Decoded
  eucJp : List UInt8 → Decoded
  eucKr : List UInt8 → Decoded

namespace LegacyDecoders.AsciiOnly

scoped instance asciiOnly : LegacyDecoders where
  gbk := (SingleByte.decoder #[]).decode
  gb18030 := (SingleByte.decoder #[]).decode
  big5 := (SingleByte.decoder #[]).decode
  eucJp := (SingleByte.decoder #[]).decode
  eucKr := (SingleByte.decoder #[]).decode

end LegacyDecoders.AsciiOnly

variable [LegacyDecoders]

/-- What the bytes decode to if none of them is taken for a byte order mark. -/
def decodeAll : Charset → List UInt8 → Decoded
  | .utf8 => Utf8.decoder.decode
  | .ibm866 => (SingleByte.decoder SingleByte.ibm866.toArray).decode
  | .iso8859_2 => (SingleByte.decoder SingleByte.iso8859_2.toArray).decode
  | .iso8859_3 => (SingleByte.decoder SingleByte.iso8859_3.toArray).decode
  | .iso8859_4 => (SingleByte.decoder SingleByte.iso8859_4.toArray).decode
  | .iso8859_5 => (SingleByte.decoder SingleByte.iso8859_5.toArray).decode
  | .iso8859_6 => (SingleByte.decoder SingleByte.iso8859_6.toArray).decode
  | .iso8859_7 => (SingleByte.decoder SingleByte.iso8859_7.toArray).decode
  | .iso8859_8 => (SingleByte.decoder SingleByte.iso8859_8.toArray).decode
  | .iso8859_8I => (SingleByte.decoder SingleByte.iso8859_8.toArray).decode
  | .iso8859_10 => (SingleByte.decoder SingleByte.iso8859_10.toArray).decode
  | .iso8859_13 => (SingleByte.decoder SingleByte.iso8859_13.toArray).decode
  | .iso8859_14 => (SingleByte.decoder SingleByte.iso8859_14.toArray).decode
  | .iso8859_15 => (SingleByte.decoder SingleByte.iso8859_15.toArray).decode
  | .iso8859_16 => (SingleByte.decoder SingleByte.iso8859_16.toArray).decode
  | .koi8R => (SingleByte.decoder SingleByte.koi8R.toArray).decode
  | .koi8U => (SingleByte.decoder SingleByte.koi8U.toArray).decode
  | .macintosh => (SingleByte.decoder SingleByte.macintosh.toArray).decode
  | .windows874 => (SingleByte.decoder SingleByte.windows874.toArray).decode
  | .windows1250 => (SingleByte.decoder SingleByte.windows1250.toArray).decode
  | .windows1251 => (SingleByte.decoder SingleByte.windows1251.toArray).decode
  | .windows1252 => (SingleByte.decoder SingleByte.windows1252.toArray).decode
  | .windows1253 => (SingleByte.decoder SingleByte.windows1253.toArray).decode
  | .windows1254 => (SingleByte.decoder SingleByte.windows1254.toArray).decode
  | .windows1255 => (SingleByte.decoder SingleByte.windows1255.toArray).decode
  | .windows1256 => (SingleByte.decoder SingleByte.windows1256.toArray).decode
  | .windows1257 => (SingleByte.decoder SingleByte.windows1257.toArray).decode
  | .windows1258 => (SingleByte.decoder SingleByte.windows1258.toArray).decode
  | .macCyrillic => (SingleByte.decoder SingleByte.macCyrillic.toArray).decode
  | .gbk => LegacyDecoders.gbk
  | .gb18030 => LegacyDecoders.gb18030
  | .big5 => LegacyDecoders.big5
  | .eucJp => LegacyDecoders.eucJp
  | .iso2022Jp => Iso2022Jp.decoder.decode
  | .shiftJis => ShiftJis.scheme.decoder.decode
  | .eucKr => LegacyDecoders.eucKr
  | .utf16be => (Utf16.decoder .bigEndian).decode
  | .utf16le => (Utf16.decoder .littleEndian).decode
  | .userDefined => (SingleByte.decoder SingleByte.userDefined.toArray).decode

def mark : Charset → List UInt8
  | .utf8 => [0xEF, 0xBB, 0xBF]
  | .utf16le => [0xFF, 0xFE]
  | .utf16be => [0xFE, 0xFF]
  | _ => []

def dropMark (cs : Charset) (bytes : List UInt8) : List UInt8 :=
  if cs.mark.isPrefixOf bytes then bytes.drop cs.mark.length else bytes

def decode (cs : Charset) (bytes : List UInt8) : Decoded := cs.decodeAll (cs.dropMark bytes)

end ShownText.Charset
