import ServiceClient.Generator.Generate

/-! A catalog of gadgets, as a service with JSON bodies. -/

namespace ServiceClient.Client.Gadgets
open ServiceClient.Schema

def service : Service where
  metadata :=
    { endpointPrefix := "gadgets",
      protocol := some "json",
      apiVersion := some "2023-11-15",
      serviceFullName := some "Gadget Catalog",
      serviceId := some "Gadgets",
      targetPrefix := some "GadgetCatalog_20231115",
      jsonVersion := some "1.1" }
  operations :=
    [ { name := "DeleteGadget", method := .post, requestUri := "/",
        input := some "GetGadgetRequest", output := none,
        documentation := none },
      { name := "GetGadget", method := .post, requestUri := "/",
        input := some "GetGadgetRequest", output := some "GetGadgetResult",
        documentation := some "<p>Looks up a gadget.</p>" },
      { name := "ListGadgets", method := .post, requestUri := "/",
        input := some "ListGadgetsRequest", output := some "ListGadgetsResult",
        documentation := none } ]
  shapes :=
    [ { name := "Error", kind := .struct
          { members :=
              [ ("Code", { shape := "String" }),
                ("Message", { shape := "String" }) ],
            required := [], payload := none } },
      { name := "Flag", kind := .primitive .boolean },
      { name := "Gadget", kind := .struct
          { members :=
              [ ("Name", { shape := "String" }),
                ("Weight", { shape := "Weight" }),
                ("Serial", { shape := "Serial" }),
                ("Active", { shape := "Flag" }),
                ("Labels", { shape := "LabelMap" }),
                ("Parts", { shape := "PartList", locationName := some "Parts" }),
                ("LastError", { shape := "Error" }) ],
            required := ["Name"], payload := none } },
      { name := "GadgetList", kind := .list { shape := "Gadget" } },
      { name := "GetGadgetRequest", kind := .struct
          { members :=
              [ ("Name", { shape := "String" }) ],
            required := ["Name"], payload := none } },
      { name := "GetGadgetResult", kind := .struct
          { members :=
              [ ("Gadget", { shape := "Gadget" }) ],
            required := [], payload := none } },
      { name := "LabelMap", kind := .map { shape := "String" } { shape := "String" } },
      { name := "Limit", kind := .primitive .integer },
      { name := "ListGadgetsRequest", kind := .struct
          { members :=
              [ ("Limit", { shape := "Limit" }),
                ("StartName", { shape := "String" }) ],
            required := [], payload := none } },
      { name := "ListGadgetsResult", kind := .struct
          { members :=
              [ ("Gadgets", { shape := "GadgetList", locationName := some "Gadgets" }),
                ("NextName", { shape := "String" }) ],
            required := ["Gadgets"], payload := none } },
      { name := "PartList", kind := .list { shape := "String" } },
      { name := "Serial", kind := .primitive .long },
      { name := "String", kind := .primitive .string },
      { name := "Weight", kind := .primitive .double } ]

/-- The plan of the client. -/
def plan : Codec.Module where
  protocol := .json
  shapes :=
    [ { decoder :=
          some ⟨"GadgetsError",
                .struct "Error"
                  [ { field := "code", wire := "Code", type := "String", required := false,
                      collection := none, source := .body none },
                    { field := "message", wire := "Message", type := "String", required := false,
                      collection := none, source := .body none } ]⟩,
        declaration :=
          some ⟨[], "GadgetsError",
                .struct [⟨[], "code", "String", false⟩, ⟨[], "message", "String", false⟩]⟩,
        encoder :=
          some ⟨"GadgetsError",
                .struct
                  [ ⟨"code", false, .nested "String" "Code"⟩,
                    ⟨"message", false, .nested "String" "Message"⟩ ]⟩ },
      { decoder := some ⟨"Flag", .scalar .boolean⟩,
        declaration := some ⟨[], "Flag", .alias (.primitive .boolean)⟩,
        encoder := some ⟨"Flag", .scalar⟩ },
      { decoder :=
          some ⟨"Gadget",
                .struct "Gadget"
                  [ { field := "name", wire := "Name", type := "String", required := true,
                      collection := none, source := .body none },
                    { field := "weight", wire := "Weight", type := "Weight", required := false,
                      collection := none, source := .body none },
                    { field := "serial", wire := "Serial", type := "Serial", required := false,
                      collection := none, source := .body none },
                    { field := "active", wire := "Active", type := "Flag", required := false,
                      collection := none, source := .body none },
                    { field := "labels", wire := "Labels", type := "LabelMap", required := false,
                      collection := some .map, source := .body none },
                    { field := "parts", wire := "Parts", type := "PartList", required := false,
                      collection := some .list, source := .body (some "String") },
                    { field := "last_error", wire := "LastError", type := "GadgetsError",
                      required := false, collection := none, source := .body none } ]⟩,
        declaration :=
          some ⟨[], "Gadget",
                .struct
                  [ ⟨[], "name", "String", true⟩,
                    ⟨[], "weight", "Weight", false⟩,
                    ⟨[], "serial", "Serial", false⟩,
                    ⟨[], "active", "Flag", false⟩,
                    ⟨[], "labels", "LabelMap", false⟩,
                    ⟨[], "parts", "PartList", false⟩,
                    ⟨[], "last_error", "GadgetsError", false⟩ ]⟩,
        encoder :=
          some ⟨"Gadget",
                .struct
                  [ ⟨"name", true, .nested "String" "Name"⟩,
                    ⟨"weight", false, .nested "Weight" "Weight"⟩,
                    ⟨"serial", false, .nested "Serial" "Serial"⟩,
                    ⟨"active", false, .nested "Flag" "Active"⟩,
                    ⟨"labels", false, .nested "LabelMap" "Labels"⟩,
                    ⟨"parts", false, .nested "PartList" "Parts"⟩,
                    ⟨"last_error", false, .nested "GadgetsError" "LastError"⟩ ]⟩ },
      { decoder := some ⟨"GadgetList", .list "Gadget"⟩,
        declaration := some ⟨[], "GadgetList", .alias (.list "Gadget")⟩,
        encoder := some ⟨"GadgetList", .list "Gadget"⟩ },
      { decoder := none,
        declaration := some ⟨[], "GetGadgetRequest", .struct [⟨[], "name", "String", true⟩]⟩,
        encoder := some ⟨"GetGadgetRequest", .struct [⟨"name", true, .nested "String" "Name"⟩]⟩ },
      { decoder :=
          some ⟨"GetGadgetResult",
                .struct "GetGadgetResult"
                  [ { field := "gadget", wire := "Gadget", type := "Gadget", required := false,
                      collection := none, source := .body none } ]⟩,
        declaration := some ⟨[], "GetGadgetResult", .struct [⟨[], "gadget", "Gadget", false⟩]⟩,
        encoder := none },
      { decoder := some ⟨"LabelMap", .map "String" "String" "key" "value"⟩,
        declaration := some ⟨[], "LabelMap", .alias (.map "String" "String")⟩,
        encoder := some ⟨"LabelMap", .map "String" "String" "key" "value"⟩ },
      { decoder := some ⟨"Limit", .scalar .integer⟩,
        declaration := some ⟨[], "Limit", .alias (.primitive .integer)⟩,
        encoder := some ⟨"Limit", .scalar⟩ },
      { decoder := none,
        declaration :=
          some ⟨[], "ListGadgetsRequest",
                .struct [⟨[], "limit", "Limit", false⟩, ⟨[], "start_name", "String", false⟩]⟩,
        encoder :=
          some ⟨"ListGadgetsRequest",
                .struct
                  [ ⟨"limit", false, .nested "Limit" "Limit"⟩,
                    ⟨"start_name", false, .nested "String" "StartName"⟩ ]⟩ },
      { decoder :=
          some ⟨"ListGadgetsResult",
                .struct "ListGadgetsResult"
                  [ { field := "gadgets", wire := "Gadgets", type := "GadgetList", required := true,
                      collection := some .list, source := .body (some "Gadget") },
                    { field := "next_name", wire := "NextName", type := "String", required := false,
                      collection := none, source := .body none } ]⟩,
        declaration :=
          some ⟨[], "ListGadgetsResult",
                .struct [⟨[], "gadgets", "GadgetList", true⟩, ⟨[], "next_name", "String", false⟩]⟩,
        encoder := none },
      { decoder := some ⟨"PartList", .list "String"⟩,
        declaration := some ⟨[], "PartList", .alias (.list "String")⟩,
        encoder := some ⟨"PartList", .list "String"⟩ },
      { decoder := some ⟨"Serial", .scalar .long⟩,
        declaration := some ⟨[], "Serial", .alias (.primitive .long)⟩,
        encoder := some ⟨"Serial", .scalar⟩ },
      { decoder := some ⟨"String", .scalar .string⟩,
        declaration := none,
        encoder := some ⟨"String", .scalar⟩ },
      { decoder := some ⟨"Weight", .scalar .double⟩,
        declaration := some ⟨[], "Weight", .alias (.primitive .double)⟩,
        encoder := some ⟨"Weight", .scalar⟩ } ]
  client :=
    { name := "GadgetsClient",
      docs := [" Client for Gadget Catalog."],
      endpointPrefix := "gadgets",
      methods :=
        [ { docs := [], name := "delete_gadget", operation := "DeleteGadget", http := .post,
            uri := "/",
            setup :=
              [ .param "Action" "DeleteGadget",
                .param "Version" "2023-11-15",
                .header "X-Amz-Target" "GadgetCatalog_20231115.DeleteGadget",
                .header "Content-Type" "application/x-amz-json-1.1" ],
            input := some "GetGadgetRequest", output := none },
          { docs := [" Looks up a gadget."], name := "get_gadget", operation := "GetGadget",
            http := .post, uri := "/",
            setup :=
              [ .param "Action" "GetGadget",
                .param "Version" "2023-11-15",
                .header "X-Amz-Target" "GadgetCatalog_20231115.GetGadget",
                .header "Content-Type" "application/x-amz-json-1.1" ],
            input := some "GetGadgetRequest",
            output := some ⟨"GetGadgetResult", "GetGadgetResult"⟩ },
          { docs := [], name := "list_gadgets", operation := "ListGadgets", http := .post,
            uri := "/",
            setup :=
              [ .param "Action" "ListGadgets",
                .param "Version" "2023-11-15",
                .header "X-Amz-Target" "GadgetCatalog_20231115.ListGadgets",
                .header "Content-Type" "application/x-amz-json-1.1" ],
            input := some "ListGadgetsRequest",
            output := some ⟨"ListGadgetsResult", "ListGadgetsResult"⟩ } ] }

theorem planService_service : Generator.planService service {} = .ok plan :=
  Generator.eq_ok_of_toOption (by decide +kernel)

end ServiceClient.Client.Gadgets
