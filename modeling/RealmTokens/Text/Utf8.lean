/-
Texts as bytes in UTF-8.
-/
namespace RealmTokens
namespace Text

def utf8 (s : String) : List UInt8 :=
  s.toUTF8.toList

def ofUtf8? (bytes : List UInt8) : Option (List Char) :=
  (String.fromUTF8? ⟨bytes.toArray⟩).map String.toList

end Text
end RealmTokens
