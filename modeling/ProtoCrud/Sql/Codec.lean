/-!
# Enum codecs

An enum travels as a number and is stored as a text. A codec is a table of the two that is never
empty; its first entry is the default, which stands for every number and every text that the table
does not list. Of several entries with the same number or text, the first one counts.
-/

namespace ProtoCrud.Sql

/-- A table of enum numbers and the texts that store them. -/
structure EnumCodec where
  name : String
  variants : List (Int32 × String)
  variants_ne_nil : variants ≠ []
  deriving DecidableEq

namespace EnumCodec

def ofVariants? (name : String) (variants : List (Int32 × String)) : Option EnumCodec :=
  if h : variants = [] then none else some ⟨name, variants, h⟩

/-- The first variant. -/
def default (codec : EnumCodec) : Int32 × String :=
  codec.variants.head codec.variants_ne_nil

def defaultNumber (codec : EnumCodec) : Int32 :=
  codec.default.1

def defaultText (codec : EnumCodec) : String :=
  codec.default.2

def encode (codec : EnumCodec) (number : Int32) : String :=
  ((codec.variants.find? (·.1 = number)).getD codec.default).2

def decode (codec : EnumCodec) (text : String) : Int32 :=
  ((codec.variants.find? (·.2 = text)).getD codec.default).1

/-- The text that stores a number that may be absent. -/
def encodeOrDefault (codec : EnumCodec) (number : Option Int32) : String :=
  number.elim codec.defaultText codec.encode

end EnumCodec

end ProtoCrud.Sql
