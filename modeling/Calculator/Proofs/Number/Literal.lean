import Calculator.Proofs.Number.Scientific
import Calculator.Proofs.Number.Shortest

/-!
# Numbers as literals

The text of a finite double without a sign is a literal that is read as this double again, whatever
stands behind it that does not continue a literal.  It is the shortest decimal that rounds to the
double.

## Main results

* `numberChars_of_finite`: the text of a finite double
* `scanNumber_formatNumber`: its layout, how it is read, and that it is the shortest one
-/

namespace Calculator

variable {x : Float}

theorem numberChars_of_finite (hnan : x.isNaN = false) (hinf : x.isInf = false)
    (hsign : isNegative x = false) :
    numberChars x = (Decimal.shortest (Pattern.ofFloat x)).positional := by
  rw [numberChars, hnan, hinf, signText, hsign]
  rfl

/-- **Numbers as literals.**  The text of a finite double without a sign has digits, and a point
between digits if it has one.  With anything behind it that does not begin with a digit or a point,
the literal at its beginning is this text, and it is read as the double.  Among the decimals of
which it is the nearest double, the one that is written has the fewest digits. -/
theorem scanNumber_formatNumber (hnan : x.isNaN = false) (hinf : x.isInf = false)
    (hsign : isNegative x = false) :
    (∃ ds fs, (formatNumber x).toList = ds ++ fractionText fs ∧ ds ≠ [] ∧
      ∀ c ∈ ds ++ fs, c.isDigit = true) ∧
    (∀ offset rest, (∀ c ∈ rest.head?, c.isDigit = false ∧ c ≠ '.') →
      scanNumber ⟨offset, (formatNumber x).toList ++ rest⟩ =
        (.ok x, ⟨offset + (formatNumber x).length, rest⟩)) ∧
    (Numeral.decimal (formatNumber x).toList).IsShortest (Pattern.ofFloat x) := by
  have hle : Pattern.ofFloat x ≤ Pattern.infinity := (ofFloat_lt_infinity hnan hinf).le
  obtain ⟨hnumeral, hvalue⟩ := Decimal.positional_spec (Decimal.shortest (Pattern.ofFloat x))
  rw [formatNumber, String.toList_ofList, String.length_ofList,
    numberChars_of_finite hnan hinf hsign]
  refine ⟨?_, fun offset rest hrest => ?_, (Decimal.isShortest_shortest hle).congr hvalue.symm⟩
  · obtain ⟨ds, fs, htext, hds, hfs⟩ :=
      Decimal.exists_positional (Decimal.shortest (Pattern.ofFloat x))
    refine ⟨ds, fs, htext, hds.ne_nil, fun c hc => ?_⟩
    exact (List.mem_append.mp hc).elim (hds.isDigit c) (hfs c)
  · rw [scanNumber_of_isNumeral hnumeral hrest, toFloat_positional hnan hinf hsign]

/-- The least positive double is written with one digit that is not zero, and so it is read. -/
theorem scanNumber_formatNumber_least :
    let x := Float.ofBits 1
    (scanNumber ⟨0, (formatNumber x).toList ++ [' ', '+']⟩).1 = .ok x ∧
      (Numeral.decimal (formatNumber x).toList).FitsIn 1 := by
  intro x
  obtain ⟨-, hscan, hshortest⟩ := scanNumber_formatNumber (x := x) (by decide +kernel)
    (by decide +kernel) (by decide +kernel)
  have hrest : ∀ c ∈ [' ', '+'].head?, c.isDigit = false ∧ c ≠ '.' := by
    rintro c ⟨⟩
    decide
  have hfive : (Decimal.mk 5 (-324)).pattern = Pattern.ofFloat x := by decide +kernel
  exact ⟨by rw [hscan 0 _ hrest], hshortest.fewest ⟨5, -324⟩ 1
    (Decimal.isNearest_iff_pattern.mpr hfive) ⟨5, by decide, -324, rfl⟩⟩

end Calculator
