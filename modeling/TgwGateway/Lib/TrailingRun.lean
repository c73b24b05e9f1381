import Mathlib.Data.List.Basic

/- The length of the run of entries satisfying a test at the end of a list. -/
namespace TrailingRun
variable {Entry : Type}

def trailing (test : Entry → Bool) (xs : List Entry) : Nat := (xs.reverse.takeWhile test).length

@[simp] theorem trailing_nil (test : Entry → Bool) : trailing test [] = 0 := rfl

@[simp] theorem trailing_snoc (test : Entry → Bool) (xs : List Entry) (x : Entry) :
    trailing test (xs ++ [x]) = if test x then trailing test xs + 1 else 0 := by
  simp only [trailing, List.reverse_append, List.reverse_cons, List.reverse_nil, List.nil_append,
    List.singleton_append, List.takeWhile_cons]
  split <;> simp

theorem trailing_le_length (test : Entry → Bool) (xs : List Entry) :
    trailing test xs ≤ xs.length := by
  have bound := (List.takeWhile_prefix test (l := xs.reverse)).length_le
  simpa [trailing] using bound

end TrailingRun
