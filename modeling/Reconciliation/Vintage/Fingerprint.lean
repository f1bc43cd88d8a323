import Reconciliation.Calendar.Layout
import Reconciliation.Digest.Sha256
import Reconciliation.SortedMap

/-! # Fingerprints of sets of days

A fingerprint tells whether two sets of days are equal without keeping the days.
-/

namespace Reconciliation

/-- The days of a list, each once and in order, one a line. -/
def fingerprintText (dates : List Date) : List Char :=
  (SortedMap.distinct dates).flatMap fun date => date.text.toList ++ ['\n']

/-- The digest of the days of a list. -/
def fingerprint (dates : List Date) : String :=
  String.ofList (Sha256.hex ((fingerprintText dates).flatMap String.utf8EncodeChar))

end Reconciliation
