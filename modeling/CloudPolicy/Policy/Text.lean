import CloudPolicy.Policy.Document
import CloudPolicy.Settings
import CloudPolicy.Toml.Reader

/-! Policy documents and settings as TOML texts. -/

namespace CloudPolicy

/-- Read a policy document. -/
def PolicyDocument.ofText (text : String) : Except Error PolicyDocument :=
  match (Toml.read? text).bind PolicyDocument.ofJson? with
  | some document => .ok document
  | none => .error (.configuration "failed to parse policy TOML")

/-- Read settings. The sizes of the calls of the tag service have to be positive. -/
def Settings.ofText (text : String) : Except Error Settings :=
  match (Toml.read? text).bind Settings.ofJson? with
  | none => .error (.configuration "failed to parse settings TOML")
  | some settings =>
    if settings.tagBatchSize = 0 ∨ settings.maxTagsPerCall = 0 then
      .error (.configuration "tag_batch_size and max_tags_per_call must be positive")
    else .ok settings

end CloudPolicy
