import ScenarioRunner.Rule.Definition

/-! The builtin rules. They are always there, whatever a custom document says. -/
namespace ScenarioRunner.BuiltinRules

def version : String := "1.0"

/-- Reads an element and expects a text in it. -/
def checkContains : String := "extract $\x7belement\x7d -> actual\nexpect_contains $actual $\x7bexpected\x7d\n"

/-- Expects a text in the title of the page. -/
def assertTitle : String := "title -> current\nexpect_contains $current $\x7btext\x7d\n"

/-- Rules for steps that open an address, reload the page or go back. -/
def gotoRules : List RuleDefinition := [
  { name := "basic_navigation", pattern := "^(打开|访问|导航到).*?\\s*((?:https?://|%\\w+%)\\S*)$"
    groups := ["action", "url"], priority := 100
    description := "基本导航操作" },
  { name := "simple_goto", pattern := "^(?:转到|跳转到).*?\\s*((?:https?://|%\\w+%)\\S*)$"
    groups := ["url"], priority := 100
    description := "简单导航" },
  { name := "refresh_page", pattern := "^(刷新|重新加载|[Rr]efresh|[Rr]eload)(?:\\s*页面|\\s+page)?(?:.*?\\s+(https?://\\S+))?$"
    groups := ["action", "url"], priority := 100
    description := "刷新页面" },
  { name := "go_back", pattern := "^(返回|后退|[Gg]o back|[Bb]ack)(?:\\s*(?:上一页|页面)|\\s+page)?(?:.*?\\s+(https?://\\S+))?$"
    groups := ["action", "url"], priority := 100
    description := "返回上一页" },
  { name := "open_url", pattern := "^(?i:open|visit|go to|navigate to)\\s+.*?((?:https?://|%\\w+%)\\S*)$"
    groups := ["url"], priority := 80
    description := "Navigate to a URL" }]

/-- Rules for steps that take data from the page. -/
def extractRules : List RuleDefinition := [
  { name := "extract_with_variable", pattern := "^提取\\s*(.+?)(?:\\s*到变量\\s*(\\w+))?$"
    groups := ["target", "variable"], priority := 100
    description := "提取数据到变量" },
  { name := "get_and_save", pattern := "^获取\\s*(.+?)(?:\\s*并保存为\\s*(\\w+))?$"
    groups := ["target", "variable"], priority := 100
    description := "获取并保存数据" },
  { name := "read_data", pattern := "^读取\\s*(.+?)(?:\\s*存储到\\s*(\\w+))?$"
    groups := ["target", "variable"], priority := 100
    description := "读取数据" },
  { name := "capture_text", pattern := "^捕获\\s*(.+?)(?:文本)?(?:\\s*到\\s*(\\w+))?$"
    groups := ["target", "variable"], priority := 90
    description := "捕获文本内容" },
  { name := "extract_into", pattern := "^(?i:extract)\\s+(.+?)(?:\\s+(?i:into|as)\\s+(\\w+))?$"
    groups := ["target", "variable"], priority := 80
    description := "Extract data, optionally into a named variable" }]

/-- Rules for steps that look for elements. -/
def observeRules : List RuleDefinition := [
  { name := "find_elements", pattern := "^查找\\s*(.+)$"
    groups := ["target"], priority := 100
    description := "查找元素" },
  { name := "observe_elements", pattern := "^观察\\s*(.+)$"
    groups := ["target"], priority := 100
    description := "观察元素" },
  { name := "check_elements", pattern := "^检查\\s*(?!.*是否包含)(.+?)(?:元素)?$"
    groups := ["target"], priority := 100
    description := "检查元素" },
  { name := "scan_page", pattern := "^扫描\\s*(.+)$"
    groups := ["target"], priority := 90
    description := "扫描页面" },
  { name := "locate_elements", pattern := "^(?i:find|observe|locate)\\s+(.+)$"
    groups := ["target"], priority := 80
    description := "Locate elements on the page" }]

/-- Rules for steps that hand a task to an agent. -/
def agentRules : List RuleDefinition := [
  { name := "execute_task", pattern := "^执行任务\\s*(.+)$"
    groups := ["instruction"], priority := 100
    description := "执行代理任务" },
  { name := "smart_execute", pattern := "^智能执行\\s*(.+)$"
    groups := ["instruction"], priority := 100
    description := "智能执行" },
  { name := "automate_workflow", pattern := "^自动化\\s*(.+)$"
    groups := ["instruction"], priority := 100
    description := "自动化工作流" },
  { name := "ai_assist", pattern := "^AI辅助\\s*(.+)$"
    groups := ["instruction"], priority := 90
    description := "AI辅助执行" }]

/-- Rules for steps that do something on the page. -/
def actRules : List RuleDefinition := [
  { name := "input_text", pattern := "^在\\s*(.+?)\\s*中输入\\s*(.+)$"
    groups := ["element", "value"], priority := 100
    description := "在元素中输入文本" },
  { name := "click_element", pattern := "^点击\\s*(.+)$"
    groups := ["element"], priority := 100
    description := "点击元素" },
  { name := "select_option", pattern := "^选择\\s*(.+?)\\s*中的\\s*(.+)$"
    groups := ["dropdown", "option"], priority := 100
    description := "选择下拉选项" },
  { name := "select_from_dropdown", pattern := "^从\\s*(.+?)\\s*中选择\\s*(.+)$"
    groups := ["dropdown", "option"], priority := 100
    description := "从下拉框选择" },
  { name := "check_contains", pattern := "^检查\\s*(.+?)\\s*是否包含\\s*(.+)$"
    groups := ["element", "expected"], priority := 100
    description := "检查元素是否包含文本"
    template := some checkContains },
  { name := "verify_display", pattern := "^验证\\s*(.+?)\\s*显示\\s*(.+)$"
    groups := ["element", "expected"], priority := 100
    description := "验证元素显示内容"
    template := some checkContains },
  { name := "wait_for_element", pattern := "^等待\\s*(.+?)\\s*出现$"
    groups := ["element"], priority := 100
    description := "等待元素出现" },
  { name := "take_screenshot", pattern := "^(?:截图|截屏)(?:保存为)?\\s*(.+)$"
    groups := ["name"], priority := 100
    description := "截图保存" },
  { name := "clear_input", pattern := "^清空\\s*(.+)$"
    groups := ["element"], priority := 90
    description := "清空输入框" },
  { name := "hover_element", pattern := "^悬停\\s*(.+)$"
    groups := ["element"], priority := 90
    description := "鼠标悬停" },
  { name := "scroll_to_element", pattern := "^滚动到\\s*(.+)$"
    groups := ["element"], priority := 90
    description := "滚动到元素" },
  { name := "type_into", pattern := "^(?i:type)\\s+(.+?)\\s+(?i:into)\\s+(.+)$"
    groups := ["value", "element"], priority := 80
    description := "Type text into an element" },
  { name := "click", pattern := "^(?i:click)\\s+(.+)$"
    groups := ["element"], priority := 80
    description := "Click an element" }]

/-- Rules for steps that are scripts alone. -/
def templateRules : List RuleDefinition := [
  { name := "assert_title", pattern := "^(?:断言|验证)标题包含\\s*(.+)$"
    groups := ["text"], priority := 100
    description := "断言页面标题包含文本"
    template := some assertTitle }]

/-- All builtin rules, in the order in which their kinds are tried. -/
def table : RuleTable := [
  ("goto", gotoRules),
  ("extract", extractRules),
  ("observe", observeRules),
  ("agent", agentRules),
  ("act", actRules),
  ("template", templateRules)]

end ScenarioRunner.BuiltinRules
