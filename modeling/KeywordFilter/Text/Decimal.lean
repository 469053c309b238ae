/-! # Decimal digits of numbers -/

set_option autoImplicit false

namespace KeywordFilter.Text

def decimal (value : Nat) : String :=
  String.ofList (Nat.toDigits 10 value)

def signedDecimal (value : Int) : String :=
  if value < 0 then "-" ++ decimal value.natAbs else decimal value.natAbs

end KeywordFilter.Text
