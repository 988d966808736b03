import SchemaDecl.Command.Run

/-!
# Command lines without an environment

When no environment variable is set, what a run does is said by its words alone: a word for a group,
one for a command, and the switches of the command.
-/

namespace SchemaDecl.Command

/-! ## Lines -/

namespace Line

variable {line : Line}

end Line

/-! ## Invocations -/

namespace Invocation

variable {invocation : Invocation}

end Invocation

/-! ## From the words to the job -/

variable {tree : FileTree} {environment : Environment} {group command : String}
  {commands : List (String × JobName)} {name : JobName}

end SchemaDecl.Command
