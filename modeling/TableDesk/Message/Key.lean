/-!
The messages that the program shows. Every message has a name under which an override file may
replace it.
-/

namespace TableDesk.Message

inductive Key where
  | appTitle
  | pluginUnknown
  | rowsUnknown
  | tablesTitle
  | tablesEmpty
  | tablesRowCount
  | tablesPluginSummary
  | deleteNoneTitle
  | deleteNoneBody
  | deleteConfirmTitle
  | deleteConfirmBody
  | deleteConfirmAction
  | deleteDone
  | deleteFailedTitle
  | dialogClose
  | errorTitle
  | statusReloaded
  | statusReloadFailed
  | statusLanguage
  | statusChecked
  | hintMove
  | hintExpand
  | hintCheck
  | hintDelete
  | hintHelp
  | hintQuit
  | hintSwitch
  | hintSelect
  | helpTitle
  | helpNavigate
  | helpExpand
  | helpCheck
  | helpDelete
  | helpReload
  | helpLanguage
  | helpQuit
  deriving DecidableEq, Repr

def Key.name : Key → String
  | .appTitle => "ao.admin.title"
  | .pluginUnknown => "ao.admin.plugin.unknown"
  | .rowsUnknown => "ao.admin.rows.unknown"
  | .tablesTitle => "ao.admin.tables.title"
  | .tablesEmpty => "ao.admin.tables.empty"
  | .tablesRowCount => "ao.admin.tables.rows"
  | .tablesPluginSummary => "ao.admin.tables.plugin.summary"
  | .deleteNoneTitle => "ao.admin.tables.delete.none.title"
  | .deleteNoneBody => "ao.admin.tables.delete.none.body"
  | .deleteConfirmTitle => "ao.admin.tables.delete.confirm.title"
  | .deleteConfirmBody => "ao.admin.tables.delete.confirm.body"
  | .deleteConfirmAction => "ao.admin.tables.delete.confirm.action"
  | .deleteDone => "ao.admin.tables.delete.done"
  | .deleteFailedTitle => "ao.admin.tables.delete.failed.title"
  | .dialogClose => "ao.admin.dialog.close"
  | .errorTitle => "ao.admin.error.title"
  | .statusReloaded => "ao.admin.status.reloaded"
  | .statusReloadFailed => "ao.admin.status.reload.failed"
  | .statusLanguage => "ao.admin.status.language"
  | .statusChecked => "ao.admin.status.checked"
  | .hintMove => "ao.admin.hint.move"
  | .hintExpand => "ao.admin.hint.expand"
  | .hintCheck => "ao.admin.hint.check"
  | .hintDelete => "ao.admin.hint.delete"
  | .hintHelp => "ao.admin.hint.help"
  | .hintQuit => "ao.admin.hint.quit"
  | .hintSwitch => "ao.admin.hint.switch"
  | .hintSelect => "ao.admin.hint.select"
  | .helpTitle => "ao.admin.help.title"
  | .helpNavigate => "ao.admin.help.navigate"
  | .helpExpand => "ao.admin.help.expand"
  | .helpCheck => "ao.admin.help.check"
  | .helpDelete => "ao.admin.help.delete"
  | .helpReload => "ao.admin.help.reload"
  | .helpLanguage => "ao.admin.help.language"
  | .helpQuit => "ao.admin.help.quit"

/-- All messages, in the order in which they are looked for. -/
def Key.all : List Key := [
  .appTitle, .pluginUnknown, .rowsUnknown, .tablesTitle, .tablesEmpty, .tablesRowCount,
  .tablesPluginSummary, .deleteNoneTitle, .deleteNoneBody, .deleteConfirmTitle,
  .deleteConfirmBody, .deleteConfirmAction, .deleteDone, .deleteFailedTitle, .dialogClose,
  .errorTitle, .statusReloaded, .statusReloadFailed, .statusLanguage, .statusChecked, .hintMove,
  .hintExpand, .hintCheck, .hintDelete, .hintHelp, .hintQuit, .hintSwitch, .hintSelect,
  .helpTitle, .helpNavigate, .helpExpand, .helpCheck, .helpDelete, .helpReload, .helpLanguage,
  .helpQuit]

theorem Key.mem_all (key : Key) : key ∈ Key.all := by
  cases key <;> decide

end TableDesk.Message
