import SignOn.Text.Form
/-!
# Percent encoding in URLs

Each part of a URL has its own set of ASCII characters that are written as `%` and two digits;
control characters and all bytes outside of ASCII always are.
-/

namespace SignOn.Url

/-- The characters, beyond controls, that a part of a URL encodes. -/
structure EncodeSet where
  chars : List Char

/-- The set of opaque paths and opaque hosts. -/
def EncodeSet.control : EncodeSet := ⟨[]⟩

/-- The set of fragments. -/
def EncodeSet.fragment : EncodeSet := ⟨[' ', '"', '<', '>', '\x60']⟩

/-- The set of paths. -/
def EncodeSet.path : EncodeSet :=
  ⟨fragment.chars ++ ['#', '?', '\x7b', '\x7d']⟩

/-- The set of user names and passwords. -/
def EncodeSet.userinfo : EncodeSet :=
  ⟨path.chars ++ ['/', ':', ';', '=', '@', '[', '\\', ']', '^', '|']⟩

/-- The set of queries. -/
def EncodeSet.query : EncodeSet := ⟨[' ', '"', '#', '<', '>']⟩

/-- The set of queries of the special schemes. -/
def EncodeSet.specialQuery : EncodeSet := ⟨query.chars ++ ['\'']⟩

/-- Write one character of a part. -/
def EncodeSet.encodeChar (set : EncodeSet) (c : Char) : List Char :=
  if c.toNat < 32 ∨ 127 ≤ c.toNat ∨ set.chars.contains c then
    (Utf8.encodeChar c).flatMap Form.percent
  else [c]

/-- Write a part. -/
def EncodeSet.encode (set : EncodeSet) (s : List Char) : List Char :=
  s.flatMap set.encodeChar

end SignOn.Url
