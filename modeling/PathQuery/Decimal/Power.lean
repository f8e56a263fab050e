/-!
Powers of natural numbers. The sign for powers means whatever a library at hand has for it; the
definitions that compute with powers use the ones of the language.
-/
namespace PathQuery

def power (base exponent : Nat) : Nat := @HPow.hPow Nat Nat Nat (@instHPow Nat Nat instPowNat) base exponent

end PathQuery
