/-
  TradingConfig.Shipped.Strategies
  ────────────────────────────────
  **THE SHIPPED FILES OF THE STRATEGIES.**

  The data and the schema of the strategies that come with the program.  The
  schema asks for an identifier, a name and a class that are not empty, and
  allows one settings block.
-/
import TradingConfig.Text.Lines

namespace TradingConfig.Shipped

/-- The shipped data file, line by line. -/
def strategiesData : String := textOfLines [
  "\x7b",
  "  \"strategies\": [",
  "    \x7b",
  "      \"id\": \"scalping-strategy\",",
  "      \"name\": \"Basic Scalping Strat\",",
  "      \"description\": \"A simple scalper that buys at the current BID price, holds until current market price has reached a configurable minimum percentage gain, and then sells at current ASK price.\",",
  "      \"class-name\": \"com.gazbert.bxbot.strategies.ExampleScalpingStrategy\",",
  "      \"optional-config\": \x7b",
  "        \"config-items\": [",
  "          \x7b",
  "            \"name\": \"counter-currency-buy-order-amount\",",
  "            \"value\": \"20\"",
  "          \x7d,",
  "          \x7b",
  "            \"name\": \"minimum-percentage-gain\",",
  "            \"value\": \"2\"",
  "          \x7d",
  "        ]",
  "      \x7d",
  "    \x7d,",
  "    \x7b",
  "      \"id\": \"macd-long-position\",",
  "      \"name\": \"MACD Strat Algo\",",
  "      \"description\": \"Uses MACD as indicator and takes long position in base currency.\",",
  "      \"class-name\": \"com.gazbert.nova.algos.MacdLongBase\",",
  "      \"optional-config\": \x7b",
  "        \"config-items\": [",
  "          \x7b",
  "            \"name\": \"buy-amount\",",
  "            \"value\": \"0.5\"",
  "          \x7d,",
  "          \x7b",
  "            \"name\": \"buy-price\",",
  "            \"value\": \"671.15\"",
  "          \x7d",
  "        ]",
  "      \x7d",
  "    \x7d",
  "  ]",
  "\x7d"]

/-- The shipped schema file, line by line. -/
def strategiesSchema : String := textOfLines [
  "\x7b",
  "  \"$schema\": \"https://json-schema.org/draft/2020-12/schema\",",
  "  \"title\": \"Trading strategies\",",
  "  \"type\": \"object\",",
  "  \"required\": [\"strategies\"],",
  "  \"additionalProperties\": false,",
  "  \"properties\": \x7b",
  "    \"strategies\": \x7b",
  "      \"type\": \"array\",",
  "      \"items\": \x7b \"$ref\": \"#/$defs/strategy\" \x7d",
  "    \x7d",
  "  \x7d,",
  "  \"$defs\": \x7b",
  "    \"strategy\": \x7b",
  "      \"type\": \"object\",",
  "      \"required\": [\"id\", \"name\", \"description\", \"class-name\"],",
  "      \"additionalProperties\": false,",
  "      \"properties\": \x7b",
  "        \"id\": \x7b \"type\": \"string\", \"minLength\": 1 \x7d,",
  "        \"name\": \x7b \"type\": \"string\", \"minLength\": 1 \x7d,",
  "        \"description\": \x7b \"type\": \"string\" \x7d,",
  "        \"class-name\": \x7b \"type\": \"string\", \"minLength\": 1 \x7d,",
  "        \"optional-config\": \x7b \"$ref\": \"#/$defs/configItems\" \x7d",
  "      \x7d",
  "    \x7d,",
  "    \"configItems\": \x7b",
  "      \"type\": \"object\",",
  "      \"required\": [\"config-items\"],",
  "      \"additionalProperties\": false,",
  "      \"properties\": \x7b",
  "        \"config-items\": \x7b",
  "          \"type\": \"array\",",
  "          \"items\": \x7b",
  "            \"type\": \"object\",",
  "            \"required\": [\"name\", \"value\"],",
  "            \"additionalProperties\": false,",
  "            \"properties\": \x7b",
  "              \"name\": \x7b \"type\": \"string\", \"minLength\": 1 \x7d,",
  "              \"value\": \x7b \"type\": \"string\" \x7d",
  "            \x7d",
  "          \x7d",
  "        \x7d",
  "      \x7d",
  "    \x7d",
  "  \x7d",
  "\x7d"]

end TradingConfig.Shipped
