import Assay.Locale.Basic

/-!
# Messages

Every text that the program addresses to its user is a message, with what it
names as arguments. A message has a wording in each shipped locale.
-/

set_option autoImplicit false

namespace Assay

inductive Message where
  | programAbout
  | helpLanguage
  | helpCategory
  | helpVerbose
  | helpJson
  | helpBinary
  | helpProjectRoot
  | helpConfig
  | helpTestsDir
  | helpJobs
  | helpTimeout
  | helpHtml
  | helpNonInteractive
  | helpForce
  | helpHelp
  | helpVersion
  | runAbout
  | initAbout
  | settingsUnreadable (path : String)
  | settingsInvalid (path : String)
  | rootNotFound (path : String)
  | interpreterNotFound (name : String)
  | chosenInterpreterNotFound (path : String)
  | categoryNotFound (name : String)
  | suiteUnreadable (path : String)
  | timeoutTooShort
  | usingInterpreter (path : String)
  | categoriesFound (count : Nat) (path : String)
  | pageWritten (path : String)
  | expectedWord
  | gotWord
  | passedWord
  | totalWord
  | summaryBanner
  | failuresBanner
  | pageTitle
  | pageHeader
  | generatedAt (time : String)
  | pageUnwritable (path : String)
  | totalTile
  | passedTile
  | failedTile
  | passRateTile
  | statusHeading
  | nameHeading
  | expectedHeading
  | actualHeading
  | statusPassed
  | statusFailed
  | statusTimeout
  | statusError
  | welcome
  | setupDescription
  | settingsExist (path : String)
  | overwritePrompt (path : String)
  | inputUnreadable
  | setupAborted
  | interpreterPrompt
  | suitePrompt
  | timeoutPrompt
  | fileUnwritable (path : String)
  | folderUncreatable (path : String)
  | created (path : String)
  | sampleKept (path : String)
  | usageHint
deriving DecidableEq, Repr

namespace Message

def inEnglish : Message → String
  | programAbout =>
    "Runs an interpreter against declarative input/expected-output benchmark suites"
  | helpLanguage => "Language for messages (e.g. en, zh-CN)"
  | helpCategory => "Run a single category only"
  | helpVerbose => "Print one line per test case"
  | helpJson => "Print the results as a JSON document"
  | helpBinary => "Path or name of the interpreter binary"
  | helpProjectRoot => "Project root used to resolve program files"
  | helpConfig => "Configuration file (defaults to Harness.toml in the project root)"
  | helpTestsDir => "Directory containing the category documents"
  | helpJobs => "Cases of a category run at once (0 = one per CPU)"
  | helpTimeout => "Per-invocation timeout in seconds"
  | helpHtml => "Write an HTML report to this file"
  | helpNonInteractive => "Write the default configuration without prompting"
  | helpForce => "Overwrite existing files"
  | helpHelp => "Print help"
  | helpVersion => "Print version"
  | runAbout => "Run the benchmark categories"
  | initAbout => "Create a Harness.toml configuration and a sample category"
  | settingsUnreadable path => "Failed to read configuration file: " ++ path
  | settingsInvalid path => "Invalid configuration file: " ++ path
  | rootNotFound path => "Project root not found: " ++ path
  | interpreterNotFound name =>
    "Could not find " ++ name ++ " binary. Use --goth to specify path."
  | chosenInterpreterNotFound path => "Interpreter binary not found: " ++ path
  | categoryNotFound name => "Category '" ++ name ++ "' not found"
  | suiteUnreadable path => "Failed to read tests directory: " ++ path
  | timeoutTooShort => "Timeout must be at least one second"
  | usingInterpreter path => "Using interpreter: " ++ path
  | categoriesFound count path => "Found " ++ toString count ++ " categories in " ++ path
  | pageWritten path => "HTML report written to " ++ path
  | expectedWord => "expected"
  | gotWord => "got"
  | passedWord => "passed"
  | totalWord => "TOTAL"
  | summaryBanner => "SUMMARY"
  | failuresBanner => "Failed tests:"
  | pageTitle => "Benchmark Report"
  | pageHeader => "Benchmark Results"
  | generatedAt time => "Generated at " ++ time
  | pageUnwritable path => "Failed to write HTML report: " ++ path
  | totalTile => "Total"
  | passedTile => "Passed"
  | failedTile => "Failed"
  | passRateTile => "Pass rate"
  | statusHeading => "Status"
  | nameHeading => "Test"
  | expectedHeading => "Expected"
  | actualHeading => "Actual"
  | statusPassed => "Passed"
  | statusFailed => "Failed"
  | statusTimeout => "Timeout"
  | statusError => "Error"
  | welcome => "Welcome to the bench-runner setup wizard!"
  | setupDescription => "This will create a Harness.toml configuration and a sample category."
  | settingsExist path => path ++ " already exists. Use --force to overwrite it."
  | overwritePrompt path => path ++ " already exists. Overwrite it?"
  | inputUnreadable => "Failed to read user input"
  | setupAborted => "Initialization aborted."
  | interpreterPrompt => "Interpreter binary name"
  | suitePrompt => "Tests directory"
  | timeoutPrompt => "Timeout per invocation (seconds)"
  | fileUnwritable path => "Failed to write " ++ path
  | folderUncreatable path => "Failed to create directory " ++ path
  | created path => "Created " ++ path
  | sampleKept path => "Keeping existing " ++ path
  | usageHint => "Run `bench-runner run` to execute the benchmarks."

def inChinese : Message → String
  | programAbout => "针对声明式输入/期望输出基准测试套件运行解释器"
  | helpLanguage => "消息语言（例如 en、zh-CN）"
  | helpCategory => "仅运行单个类别"
  | helpVerbose => "为每个测试用例打印一行"
  | helpJson => "以 JSON 文档形式输出结果"
  | helpBinary => "解释器二进制文件的路径或名称"
  | helpProjectRoot => "用于解析程序文件的项目根目录"
  | helpConfig => "配置文件（默认为项目根目录下的 Harness.toml）"
  | helpTestsDir => "包含类别文档的目录"
  | helpJobs => "一个类别中同时运行的用例数（0 = 每个 CPU 一个）"
  | helpTimeout => "单次调用的超时时间（秒）"
  | helpHtml => "将 HTML 报告写入此文件"
  | helpNonInteractive => "不提示，直接写入默认配置"
  | helpForce => "覆盖已存在的文件"
  | helpHelp => "打印帮助"
  | helpVersion => "打印版本"
  | runAbout => "运行基准测试类别"
  | initAbout => "创建 Harness.toml 配置和示例类别"
  | settingsUnreadable path => "读取配置文件失败：" ++ path
  | settingsInvalid path => "配置文件无效：" ++ path
  | rootNotFound path => "未找到项目根目录：" ++ path
  | interpreterNotFound name => "找不到 " ++ name ++ " 二进制文件。请使用 --goth 指定路径。"
  | chosenInterpreterNotFound path => "未找到解释器二进制文件：" ++ path
  | categoryNotFound name => "未找到类别 '" ++ name ++ "'"
  | suiteUnreadable path => "读取测试目录失败：" ++ path
  | timeoutTooShort => "超时时间至少为一秒"
  | usingInterpreter path => "使用解释器：" ++ path
  | categoriesFound count path => "在 " ++ path ++ " 中找到 " ++ toString count ++ " 个类别"
  | pageWritten path => "HTML 报告已写入 " ++ path
  | expectedWord => "期望"
  | gotWord => "实际"
  | passedWord => "通过"
  | totalWord => "总计"
  | summaryBanner => "摘要"
  | failuresBanner => "失败的测试："
  | pageTitle => "基准测试报告"
  | pageHeader => "基准测试结果"
  | generatedAt time => "生成于 " ++ time
  | pageUnwritable path => "写入 HTML 报告失败：" ++ path
  | totalTile => "总数"
  | passedTile => "通过"
  | failedTile => "失败"
  | passRateTile => "通过率"
  | statusHeading => "状态"
  | nameHeading => "测试"
  | expectedHeading => "期望"
  | actualHeading => "实际"
  | statusPassed => "通过"
  | statusFailed => "失败"
  | statusTimeout => "超时"
  | statusError => "错误"
  | welcome => "欢迎使用 bench-runner 设置向导！"
  | setupDescription => "此向导将创建 Harness.toml 配置和一个示例类别。"
  | settingsExist path => path ++ " 已存在。使用 --force 覆盖。"
  | overwritePrompt path => path ++ " 已存在。是否覆盖？"
  | inputUnreadable => "读取用户输入失败"
  | setupAborted => "初始化已中止。"
  | interpreterPrompt => "解释器二进制文件名"
  | suitePrompt => "测试目录"
  | timeoutPrompt => "单次调用超时时间（秒）"
  | fileUnwritable path => "写入 " ++ path ++ " 失败"
  | folderUncreatable path => "创建目录 " ++ path ++ " 失败"
  | created path => "已创建 " ++ path
  | sampleKept path => "保留已存在的 " ++ path
  | usageHint => "运行 `bench-runner run` 执行基准测试。"

def wording (m : Message) : Locale → String
  | .english => m.inEnglish
  | .chinese => m.inChinese

end Message

end Assay
