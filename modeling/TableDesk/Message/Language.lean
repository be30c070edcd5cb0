import TableDesk.Message.Key

/-!
The languages of the program and the texts of its messages in each of them. Every language has a
text for every message.
-/

namespace TableDesk.Message

inductive Language where
  | english
  | chinese
  deriving DecidableEq, Repr, Inhabited

namespace Language

/-- The languages in the order in which they follow each other. -/
def all : List Language := [.english, .chinese]

/-- The language in its own words. -/
def displayName : Language → String
  | .english => "English"
  | .chinese => "简体中文"

/-- The code that names the language in files and settings. -/
def code : Language → String
  | .english => "en-US"
  | .chinese => "zh-CN"

/-- The language of a code; the region may be left out. -/
def ofCode? (code : String) : Option Language :=
  if code = "en-US" ∨ code = "en" then some .english
  else if code = "zh-CN" ∨ code = "zh" then some .chinese
  else none

def next : Language → Language
  | .english => .chinese
  | .chinese => .english

def englishText : Key → String
  | .appTitle => "Active Objects"
  | .pluginUnknown => "Unknown plugin"
  | .rowsUnknown => "unknown"
  | .tablesTitle => "Tables"
  | .tablesEmpty => "No Active Objects tables were found."
  | .tablesRowCount => "\x7b0\x7d rows"
  | .tablesPluginSummary => "\x7b0\x7d tables, \x7b1\x7d rows"
  | .deleteNoneTitle => "Nothing selected"
  | .deleteNoneBody => "Select at least one table to delete."
  | .deleteConfirmTitle => "Delete tables"
  | .deleteConfirmBody => "The following tables and all of their data will be deleted: \x7b0\x7d. This cannot be undone."
  | .deleteConfirmAction => "Delete"
  | .deleteDone => "Deleted \x7b0\x7d table(s): \x7b1\x7d"
  | .deleteFailedTitle => "Delete failed"
  | .dialogClose => "Close"
  | .errorTitle => "Error"
  | .statusReloaded => "Loaded \x7b0\x7d tables"
  | .statusReloadFailed => "Could not reload tables"
  | .statusLanguage => "Language: \x7b0\x7d"
  | .statusChecked => "\x7b0\x7d selected"
  | .hintMove => "Move"
  | .hintExpand => "Expand"
  | .hintCheck => "Check"
  | .hintDelete => "Delete"
  | .hintHelp => "Help"
  | .hintQuit => "Quit"
  | .hintSwitch => "Switch"
  | .hintSelect => "Select"
  | .helpTitle => "Help"
  | .helpNavigate => "Move between plugins and tables"
  | .helpExpand => "Expand or collapse a plugin"
  | .helpCheck => "Check or uncheck a table"
  | .helpDelete => "Delete the checked tables"
  | .helpReload => "Reload the table list"
  | .helpLanguage => "Switch language"
  | .helpQuit => "Quit"

def chineseText : Key → String
  | .appTitle => "Active Objects"
  | .pluginUnknown => "未知插件"
  | .rowsUnknown => "未知"
  | .tablesTitle => "数据表"
  | .tablesEmpty => "未找到 Active Objects 数据表。"
  | .tablesRowCount => "\x7b0\x7d 行"
  | .tablesPluginSummary => "\x7b0\x7d 张表，共 \x7b1\x7d 行"
  | .deleteNoneTitle => "未选择任何表"
  | .deleteNoneBody => "请至少勾选一张要删除的表。"
  | .deleteConfirmTitle => "删除数据表"
  | .deleteConfirmBody => "以下数据表及其全部数据将被删除：\x7b0\x7d。此操作无法撤销。"
  | .deleteConfirmAction => "删除"
  | .deleteDone => "已删除 \x7b0\x7d 张表：\x7b1\x7d"
  | .deleteFailedTitle => "删除失败"
  | .dialogClose => "关闭"
  | .errorTitle => "错误"
  | .statusReloaded => "已加载 \x7b0\x7d 张表"
  | .statusReloadFailed => "无法重新加载数据表"
  | .statusLanguage => "语言：\x7b0\x7d"
  | .statusChecked => "已勾选 \x7b0\x7d 项"
  | .hintMove => "移动"
  | .hintExpand => "展开"
  | .hintCheck => "勾选"
  | .hintDelete => "删除"
  | .hintHelp => "帮助"
  | .hintQuit => "退出"
  | .hintSwitch => "切换"
  | .hintSelect => "确定"
  | .helpTitle => "帮助"
  | .helpNavigate => "在插件和数据表之间移动"
  | .helpExpand => "展开或收起插件"
  | .helpCheck => "勾选或取消勾选数据表"
  | .helpDelete => "删除已勾选的数据表"
  | .helpReload => "重新加载数据表列表"
  | .helpLanguage => "切换语言"
  | .helpQuit => "退出"

/-- The text of a message, a template for its arguments. -/
def text : Language → Key → String
  | .english => englishText
  | .chinese => chineseText

theorem ofCode?_code (language : Language) : ofCode? language.code = some language := by
  cases language <;> decide

end Language

end TableDesk.Message
