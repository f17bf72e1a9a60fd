import Intercept.Route.Snippet

/-!
# Intercept.Preset -- built-in rules

Two blockers for the dispatch endpoint of one host, whose lists of tokens overlap but differ; a
mocker for the endpoints of another; and the chain, the registry and the table made of them.
-/

namespace Intercept.Preset

/-! ## Dispatch endpoint -/

/-- The host of the dispatch endpoint. -/
def dispatchHost : String := "amdc.m.taobao.com"

/-- The keys that are denied. -/
def blockedKeys : List String := ["23782110"]

/-- The tokens of the first blocker. -/
def amdcTokens : List String :=
  ["amap", "alibaba", "cainiao", "hema", "moon", "%E5%A4%A9%E7%8C%AB", "%E9%97%B2%E9%B1%BC",
    "%E9%A3%9E%E7%8C%AA"]

/-- The tokens of the second blocker. -/
def aliTokens : List String :=
  ["AMapiPhone", "Alibaba", "Cainiao4iPhone", "Hema4iPhone", "%E6%B7%98%E5%AE%9D",
    "%E9%97%B2%E9%B1%BC", "%E9%A3%9E%E7%8C%AA%E6%97%85%E8%A1%8C"]

/-- The first blocker. -/
def amdc : Except Fault Blocker := Blocker.ofTokens amdcTokens blockedKeys

/-- The second blocker. -/
def aliAmdc : Except Fault Blocker := Blocker.ofTokens aliTokens blockedKeys

/-! ## Mocked endpoints -/

/-- The host of the mocked endpoints. -/
def mockedHost : String := "oneapp-api.faw-vw.com"

/-- An answer that holds an empty list. -/
def emptyList : String :=
  "\x7b\"returnStatus\":\"SUCCEED\",\"hasMore\":false,\"data\":[]\x7d"

/-- An answer that holds an empty object. -/
def emptyObject : String :=
  "\x7b\"returnStatus\":\"SUCCEED\",\"hasMore\":false,\"data\":\x7b\x7d\x7d"

/-- A pattern of locators of the mocked host. -/
def mockedPath (path : String) : String :=
  "^https?://oneapp-api\\.faw-vw\\.com/" ++ path

/-- The mocked endpoints and their answers. -/
def mockedRules : List (String × String) :=
  [ (mockedPath "search/firstPage/getPromptList/v1\\?.*", emptyList),
    (mockedPath "benefits/benefitsCard/getInfo/v1\\?.*", emptyList),
    (mockedPath "content/booth/getBoothList/v1\\?.*showPositionCode=VWAPP_HOME_BUOY", emptyList),
    (mockedPath ("content/booth/getBoothList/v1\\?.*showPositionCode=VWAPP_(ICE|MEB)_"
      ++ "(OPEN_SCREEN_ADS|CAR_ZHIHU_COLLEGE)"), emptyList),
    (mockedPath ("content/booth/getBoothList/v1\\?.*showPositionCode=VWAPP_(ICE|MEB)_HOME_"
      ++ "(OWNER_BANNER|PROSPECTS_BANNER|CUSTOM_BANNER|KONGO|CUSTOM_KONGO)"), emptyList),
    (mockedPath ("content/(customize/getCustomizePageName|recommend/getRecommendInfoFlows)"
      ++ "/v1\\?.*"), emptyList),
    (mockedPath ("content/(activity/getSquareActivityList|theme/getThemeList|post/getPostsByTags)"
      ++ "/v1\\?.*"), emptyList),
    (mockedPath ("content/(evaluate/getEvaluateCards|collection/getCollectionList)"
      ++ "/v1\\?.*"), emptyObject) ]

/-- The mocker. -/
def fawvw : Except Fault Mocker := Mocker.compile mockedRules

/-! ## What is made of them -/

/-- Blocks calls of the dispatch endpoint and mocks the mocked ones. -/
def chain : Except Fault Classifier := do
  return .chain "builtin" [.blocker (← amdc), .mocker (← fawvw)]

/-- The scripts that routes may name. -/
def scripts : Except Fault Registry := do
  let registry := Registry.register {} "AMDC" (.blocker (← amdc))
  return registry.register "AliAMDC" (.blocker (← aliAmdc))

/-- The routes to the scripts and the mocked answers. -/
def routeSettings : List RouteSettings :=
  [ { pattern := "^https?://amdc\\.m\\.taobao\\.com/amdc/mobileDispatch$"
      action := .script "AliAMDC" },
    { pattern := "^https?://amdc\\.m\\.taobao\\.com", action := .script "AMDC" } ]
    ++ mockedRules.map fun p => { pattern := p.1, action := .mock p.2 }

/-- The table of those routes, for the two hosts. -/
def table : Except Fault RoutingTable :=
  RoutingTable.ofSettings { routes := routeSettings, hostnames := [dispatchHost, mockedHost] }

end Intercept.Preset
