import DocumentSchema.Check.Basic
import DocumentSchema.Proofs.Outcomes
import DocumentSchema.Proofs.Pattern.Grouped

/-!
# Strings that match as a whole

The pattern of a string is put in a group between the marks of the start and the end, so that it has
to match the whole string. What comes out is what is meant for every text that is a pattern alone
and stands in such a group: a string passes if the pattern matches it from its first to its last
character. Every other text is refused, if it closes only what it has opened.

A text that closes a parenthesis of the group itself is no pattern alone. It can be taken all the
same, and then it is not matched as a whole: of `a)|(b`, the start is asked of the one alternative
only, and the end of the other.
-/

namespace DocumentSchema

/-! ## Parameters but one -/

namespace Params

def without (params : Params) (key : String) : Params := params.filter fun entry ↦ entry.1 != key

end Params

/-! ## Limits with a pattern -/

namespace TextLimits

variable {field source : String} {params : Params} {others : TextLimits}

end TextLimits

/-! ## The pattern of a whole string -/

namespace Check

variable {field source : String} {params : Params} {others : TextLimits}

end Check

end DocumentSchema
