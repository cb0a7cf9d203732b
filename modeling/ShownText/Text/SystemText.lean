import ShownText.Charset.Utf8

namespace ShownText

/-- A text in the form in which the system hands it over, which need not be UTF-8. -/
structure SystemText where
  bytes : List UInt8
  deriving DecidableEq, Repr

namespace SystemText

def ofString (text : String) : SystemText := ⟨text.toUTF8.toList⟩

instance coeString : Coe String SystemText := ⟨ofString⟩

def places (t : SystemText) : List Charset.Place := Charset.Utf8.decoder.run t.bytes

def shown (t : SystemText) : String := (Charset.Utf8.decoder.decode t.bytes).text

def ofPlaces? (places : List Charset.Place) : Option String :=
  (places.mapM id).map String.ofList

end SystemText

end ShownText
