import HomeConfig.Command.Course

/-!
# What the server offers an editor

An editor learns from these lists what it may tell and ask, which command it may run, and when it
is to ask for completions on its own.
-/

namespace HomeConfig

namespace Capability

/-- The methods that the server takes part in. -/
def methods : List String := [
  "initialized",
  "shutdown",
  "textDocument/didOpen",
  "textDocument/didChange",
  "textDocument/didClose",
  "textDocument/completion",
  "completionItem/resolve",
  "textDocument/hover",
  "textDocument/definition",
  "textDocument/diagnostic"]

/-- The commands that an editor may run. -/
def commands : List String := ["ha-lsp.refreshCache"]

/-- The characters after which an editor asks for completions. -/
def triggerCharacters : List String := [".", ":", " ", "\"", "'", "/"]

/-- What is said about completions. -/
def completion : Json := .object [
  ("triggerCharacters", .array (triggerCharacters.map .string)),
  ("resolveProvider", .bool true)]

/-- What is said about findings that are asked for. -/
def diagnostic : Json := .object [
  ("interFileDependencies", .bool false),
  ("workspaceDiagnostics", .bool false),
  ("identifier", .string Course.serverName)]

/-- What is said about methods. -/
def options : List (String × Json) := [
  ("textDocument/completion", completion),
  ("textDocument/diagnostic", diagnostic)]

/-- How changes of documents are told: as texts of ranges. -/
def syncKind : Nat := 2

end Capability

end HomeConfig
