import SiteTech.Text.Basic

namespace SiteTech

/-- Why a file cannot be read. -/
inductive FileFault where
  | missing
  | denied
  | directory
  | notDirectory
  | nameTooLong
  | other (text : String)
deriving DecidableEq, Repr

/-- The fault in the words of the operating system. -/
def FileFault.message : FileFault → String
  | missing => "No such file or directory (os error 2)"
  | denied => "Permission denied (os error 13)"
  | directory => "Is a directory (os error 21)"
  | notDirectory => "Not a directory (os error 20)"
  | nameTooLong => "File name too long (os error 36)"
  | other text => text

/-- Why a rule library cannot be loaded. -/
inductive RuleFault where
  | unreadable (path : String) (fault : FileFault)
  | notDecodable
  | noCategory
  | noTechnology
  | unknownCategory (technology : String) (id : UInt32)
deriving DecidableEq, Repr

/-- The fault in words. -/
def RuleFault.message : RuleFault → String
  | unreadable path fault => "读取规则库文件" ++ path ++ "失败：" ++ fault.message
  | notDecodable => "规则库JSON解析失败"
  | noCategory => "规则库中未找到任何分类"
  | noTechnology => "规则库中未找到任何技术"
  | unknownCategory technology id =>
    "技术[" ++ technology ++ "]引用了不存在的分类ID：" ++ String.ofList (Text.decimal id.toNat)

/-- Why a page cannot be fetched. -/
inductive FetchFault where
  | notInitialised
  | forbiddenByRobots (url : String)
  | requestTimeout (url : String)
  | loadTimeout (url : String)
  | badStatus (url : String) (status : String)
  | noSuchPage (url : String)
  | stated (reason : String)
deriving DecidableEq, Repr

/-- The fault in words. -/
def FetchFault.message : FetchFault → String
  | notInitialised => "HTTP抓取器尚未初始化"
  | forbiddenByRobots url => "robots.txt 禁止抓取：" ++ url
  | requestTimeout url => "请求超时：" ++ url
  | loadTimeout url => "页面加载超时：" ++ url
  | badStatus url status => url ++ " 返回状态码 " ++ status
  | noSuchPage url => "未预置页面：" ++ url
  | stated reason => reason

/-- Why an expression cannot be evaluated in a page. -/
inductive EvalFault where
  | renderingOff (expression : String)
  | unsupported (expression : String)
deriving DecidableEq, Repr

/-- The fault in words. -/
def EvalFault.message : EvalFault → String
  | renderingOff expression => "未开启JS渲染：" ++ expression
  | unsupported expression => "HTTP抓取器不支持执行JS：" ++ expression

/-- Everything that can go wrong. -/
inductive Error where
  | rules (fault : RuleFault)
  | unknownBackend (name : String)
  | fetcherInit (reason : String)
  | invalidUrl (reason : String)
  | fetch (fault : FetchFault)
  | eval (fault : EvalFault)
  | allPagesFailed
  | http
  | json
deriving DecidableEq, Repr

/-- The error in words. -/
def Error.message : Error → String
  | rules fault => "规则加载失败：" ++ fault.message
  | unknownBackend name => "未知的抓取后端：" ++ name
  | fetcherInit reason => "抓取后端初始化失败：" ++ reason
  | invalidUrl reason => "无效URL：" ++ reason
  | fetch fault => "页面抓取失败：" ++ fault.message
  | eval fault => "页面内脚本求值失败：" ++ fault.message
  | allPagesFailed => "所有页面分析均失败"
  | http => "网络请求失败"
  | json => "JSON解析失败"

end SiteTech
