import ScenarioRunner.Text.Basic

/-! What the model is told before it decides: one text for each of the four things that it decides
on a page. -/
namespace ScenarioRunner.Instruction

/-- How an action is written in a decision. -/
def actionFields : String := joinLines [
    "Each action is \x7b\"action_type\": \"...\", \"element_index\": 3, \"selector\": " ++
      "null, \"value\": null, \"description\": \"...\"\x7d:",
    "- action_type: one of \"click\", \"fill\", \"select\", \"hover\", \"scroll\", " ++
      "\"wait\", \"keyboard\", \"clear\", \"screenshot\"",
    "- element_index: index from the element catalogue, or null",
    "- selector: CSS selector, only when no catalogue entry fits",
    "- value: text to type, option to select, key to press, milliseconds to wait, or " ++
      "screenshot file name",
    "- description: short human description of the action"]

/-- Decide which actions carry out a step. -/
def act : String :=
  "\n\n".intercalate [joinLines [
      "You drive a web browser for an automated test. You receive one test step written in " ++
        "natural language (often Chinese), the page URL and title, and a numbered catalogue of " ++
        "interactive elements.",
      "",
      "CRITICAL: Return ONLY valid JSON. No markdown fences, no comments, no text before or " ++
        "after the JSON object.",
      "",
      "Return exactly this JSON structure:",
      "",
      "\x7b\"actions\": [...], \"reasoning\": \"brief explanation\"\x7d"],
    actionFields,
    joinLines [
      "Use the fewest actions that perform the step. If the step cannot be performed on this " ++
        "page, return an empty \"actions\" list and explain why in \"reasoning\"."]]

/-- Decide what data a page holds. -/
def extract : String := joinLines [
    "You extract data from a web page for an automated test. You receive what to extract, " ++
      "a shape hint, and the visible page text.",
    "",
    "CRITICAL: Return ONLY valid JSON. No markdown fences, no comments, no text before or " ++
      "after the JSON object.",
    "",
    "Return exactly this JSON structure:",
    "",
    "\x7b\"data\": ..., \"found\": true\x7d",
    "",
    "Shape hints:",
    "- \"list\": data is a JSON array (of strings or objects for tables)",
    "- \"text\": data is a single string",
    "- \"links\": data is an array of \x7b\"text\": \"...\", \"href\": \"...\"\x7d",
    "- \"auto\": choose the most natural JSON value",
    "",
    "If nothing matches, return \x7b\"data\": null, \"found\": false\x7d."]

/-- Decide which elements fit a description. -/
def observe : String := joinLines [
    "You locate elements on a web page for an automated test. You receive a description of " ++
      "what to find and a numbered catalogue of interactive elements.",
    "",
    "CRITICAL: Return ONLY valid JSON. No markdown fences, no comments, no text before or " ++
      "after the JSON object.",
    "",
    "Return exactly this JSON structure:",
    "",
    "\x7b\"elements\": [\x7b\"element_index\": 3, \"description\": \"what this element " ++
      "is\"\x7d]\x7d",
    "",
    "Return an empty list when nothing matches. Never invent indexes that are not in the " ++
      "catalogue."]

/-- Decide the next move of a task. -/
def agent : String :=
  "\n\n".intercalate [joinLines [
      "You are an autonomous browser agent completing a multi-step task for an automated " ++
        "test. Each turn you receive the task, the steps taken so far, the page URL and title, " ++
        "and a numbered catalogue of interactive elements.",
      "",
      "CRITICAL: Return ONLY valid JSON. No markdown fences, no comments, no text before or " ++
        "after the JSON object.",
      "",
      "Return exactly this JSON structure:",
      "",
      "\x7b\"done\": false, \"actions\": [...], \"result\": null, \"error\": null, " ++
        "\"reasoning\": \"brief explanation\"\x7d"],
    actionFields,
    joinLines [
      "Set \"done\" to true with a short \"result\" once the task is complete. If the task " ++
        "cannot be completed, set \"done\" to true and describe the problem in \"error\"."]]

end ScenarioRunner.Instruction
