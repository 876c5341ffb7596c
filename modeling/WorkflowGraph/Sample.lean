import WorkflowGraph.Builder

/-!
# Sample workflows

Two workflows to look at: one that asks for a video, summarises it and asks again, and one that
makes a single request.
-/

namespace WorkflowGraph.Sample

open Builder

/-- An object of texts. -/
def object (fields : List (String × String)) : Json :=
  .obj (fields.map fun f => (f.1, .str f.2))

/-- A pair of coordinates. -/
def place (x y : Int) : Json := .arr [.int x, .int y]

/-- A plain edge. -/
def plain (source target : String) (label : Json) : Call :=
  .connect { kind := .plain, source := .str source, target := .str target, label }

/-- An input that a setting is filled into at deployment. -/
def templateInput (name : Json.Fields) (key : String) : Json :=
  .obj (name ++ [("dataType", .str "string"), ("value", .str key), ("isTemplate", .bool true)])

/-- The steps that build the summary of videos. -/
def videoSummaryCalls : List Call := [
  .withId (.str "youtube-summarizer-sample"),
  .withName (.str "YouTube Summarizer"),
  .withDescription (.str "Summarizes YouTube videos until the user types exit"),
  .addStart (.str "start") (.str "Start"),
  .addNode {
    id := .str "input"
    kind := .str NodeKind.interrupt.name
    label := .str "YouTube URL Input"
    description := .str "Input node for YouTube URL"
    position := place 100 100
    inputs := .obj [("string",
      object [("dataType", "string"), ("value", ""), ("connectedTo", "$interrupt.string")])]
    outputs := .obj [("value", object [("dataType", "string")])]
    config := .obj [("prompt", .str "Paste a YouTube URL or type exit"), ("timeout", .int 300)] },
  .addNode {
    id := .str "youtube_tool"
    kind := .str NodeKind.tool.name
    label := .str "YouTube Transcript Extractor"
    description := .str "Extracts transcript from YouTube video"
    position := place 300 100
    inputs := .obj [
      ("video_url", object [("dataType", "string"), ("connectedTo", "$input.value")]),
      ("api_key", templateInput [] "$config.youtube_api_key")]
    outputs := .obj [("transcript", object [("dataType", "string")])]
    config := object [("toolName", "youtube_transcript")] },
  .addNode {
    id := .str "llm"
    kind := .str NodeKind.llm.name
    label := .str "LLM Summarizer"
    description := .str "Summarizes the transcript using LLM"
    position := place 500 100
    inputs := .arr [
      templateInput [("name", .str "api_key")] "$config.llm_api_key",
      templateInput [("name", .str "model")] "$config.llm_model",
      object [("name", "system_prompt"), ("dataType", "string"),
        ("value", "You are a helpful assistant that summarizes YouTube transcripts.")],
      object [("name", "user_prompt"), ("dataType", "string"),
        ("value", "Summarize the following transcript:")],
      object [("name", "context"), ("dataType", "string"),
        ("reference", "$youtube_tool.transcript")]]
    outputs := .arr [object [("name", "summary"), ("dataType", "string")]] },
  .addEnd (.str "end") (.str "End"),
  plain "start" "input" .null,
  .connect {
    kind := .conditional
    source := .str "input"
    target := .str "youtube_tool"
    condition := .str "input.value != 'exit'"
    label := .str "If not exit" },
  plain "input" "end" (.str "Default to end"),
  plain "youtube_tool" "llm" .null,
  plain "llm" "input" (.str "Loop back")]

/-- The steps that build the single request. -/
def singleRequestCalls : List Call := [
  .withId (.str "simple-api-workflow"),
  .withName (.str "Simple API Workflow"),
  .addStart (.str "start") (.str "Start"),
  .addNode {
    id := .str "api_call"
    kind := .str NodeKind.tool.name
    label := .str "API Call"
    description := .str "Make an API request"
    position := place 300 100
    inputs := object [("endpoint", "https://api.example.com/data"), ("method", "GET")]
    outputs := object [("response", "object"), ("status_code", "number")] },
  .addEnd (.str "end") (.str "End"),
  plain "start" "api_call" .null,
  plain "api_call" "end" .null]

/-- Asks for a video, fetches what is said in it, summarises that and asks again. -/
def videoSummary (s : Surroundings) : Logged (Except Fault Workflow) :=
  ofCalls s videoSummaryCalls

/-- Calls one address and ends. -/
def singleRequest (s : Surroundings) : Logged (Except Fault Workflow) :=
  ofCalls s singleRequestCalls

end WorkflowGraph.Sample
