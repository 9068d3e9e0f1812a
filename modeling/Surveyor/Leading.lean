/-!
The front part of a list by a count that may be negative.
-/
namespace Surveyor

/-- The first entries; a negative count leaves as many out at the end. -/
def leading {α : Type} (count : Int) (entries : List α) : List α :=
  if count < 0 then entries.take (entries.length + count).toNat else entries.take count.toNat

end Surveyor
