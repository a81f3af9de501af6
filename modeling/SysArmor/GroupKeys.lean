import SysArmor.MarkedTexts
import SysArmor.SequenceEvidence

/-! The keys under which the engine keeps the groups and the suppressions. A key joins the names and
values of the fields with bars, so it can be read back only as far as no value contains the bar
and name of a field beside it. -/
namespace SysArmor.Detection
open GoText Proto List

variable {fields : List FieldID} {values : List String} {ruleID : String}

end SysArmor.Detection
