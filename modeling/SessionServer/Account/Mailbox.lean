import SessionServer.Text.Utf8

/-!
When two email addresses name the same account. ASCII case does not matter; addresses of different
length differ, and what stands behind a zero character is not compared.
-/

namespace SessionServer.Mailbox

/-- The part of an address that is compared, in lower case. -/
def folded (email : String) : List Char :=
  (email.toList.takeWhile (· ≠ '\x00')).map Char.toLower

def same (first second : String) : Bool :=
  first.utf8ByteSize = second.utf8ByteSize && folded first = folded second

theorem same_comm (first second : String) : same first second = same second first := by
  simp [same, eq_comm]

theorem same_trans {first second third : String} (left : same first second = true)
    (right : same second third = true) : same first third = true := by
  simp only [same, Bool.and_eq_true, decide_eq_true_eq] at left right ⊢
  exact ⟨left.1.trans right.1, left.2.trans right.2⟩

end SessionServer.Mailbox
