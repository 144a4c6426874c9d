/-! The ranges of integers of 64 bits. -/

namespace ServiceLink.Word

/-- Unsigned integers lie below this. -/
abbrev unsignedEnd : Nat := 18446744073709551616

/-- Signed integers lie below this, and from its opposite on. -/
abbrev signedEnd : Nat := 9223372036854775808

end ServiceLink.Word
